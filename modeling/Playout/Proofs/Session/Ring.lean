import Playout.Proofs.Session.Passes

/-!
# What operations do to the ring

An operation leaves the ring alone or does one of these: it gives the buffer back, silences the
ring, or makes a pass, which looks at the hardware if the hardware answers, and then writes if there
is a place. `ringView_apply` says so for every harmless operation, `ringView_apply_of_none` what a
new buffer begins with.

## Design points

* **Readings and commitments are part of the account.** `reading` is what the hardware answers to
  the look of an operation, `commitment` what the operation writes and where.
-/

namespace Playout

namespace Operation

open Renderer (placed)

variable {op : Operation} {r : Renderer} {v : RingView}

/-- What the hardware answers to the look of an operation. -/
def reading (op : Operation) (r : Renderer) : Option Cursor :=
  match op with
  | feed left schedule =>
    if left.data.isEmpty ∨ r.state ≠ .running then none else r.planAnswer left.writeAt schedule
  | drain schedule =>
    if r.state ≠ .running ∨ r.flushing ∨ !r.connected then none else r.answer schedule
  | _ => none

/-- What an operation writes to the ring, and where. -/
def commitment (op : Operation) (r : Renderer) : Option (Nat × List UInt8) :=
  match op with
  | feed left schedule =>
    if left.data.isEmpty ∨ r.state ≠ .running then none
    else
      match (r.planChunk left.writeAt schedule).1 with
      | .ok (some chunk) => placed left.data chunk
      | _ => none
  | _ => none

section

variable {left : Feed} {schedule : Schedule}

theorem reading_feed (busy : ¬(left.data.isEmpty ∨ r.state ≠ .running)) :
    (feed left schedule).reading r = r.planAnswer left.writeAt schedule :=
  if_neg busy

theorem reading_feed_of_idle (idle : left.data.isEmpty ∨ r.state ≠ .running) :
    (feed left schedule).reading r = none :=
  if_pos idle

theorem reading_drain (busy : ¬(r.state ≠ .running ∨ r.flushing ∨ !r.connected)) :
    (drain schedule).reading r = r.answer schedule :=
  if_neg busy

theorem reading_drain_of_idle (idle : r.state ≠ .running ∨ r.flushing ∨ !r.connected) :
    (drain schedule).reading r = none :=
  if_pos idle

theorem commitment_feed_of_idle (idle : left.data.isEmpty ∨ r.state ≠ .running) :
    (feed left schedule).commitment r = none :=
  if_pos idle

theorem commitment_feed (busy : ¬(left.data.isEmpty ∨ r.state ≠ .running)) :
    (feed left schedule).commitment r
      = match (r.planChunk left.writeAt schedule).1 with
        | .ok (some chunk) => placed left.data chunk
        | _ => none :=
  if_neg busy

/-- A pass that writes has found a place, and puts there what is not stale. -/
theorem commitment_feed_inv {written : Nat × List UInt8}
    (commits : (feed left schedule).commitment r = some written) :
    ¬(left.data.isEmpty ∨ r.state ≠ .running) ∧ ∃ place r' rest,
      r.planChunk left.writeAt schedule = (.ok (some place), r', rest)
        ∧ placed left.data place = some written := by
  by_cases idle : left.data.isEmpty ∨ r.state ≠ .running
  · cases (commitment_feed_of_idle idle).symm.trans commits
  refine ⟨idle, ?_⟩
  rw [commitment_feed idle] at commits
  split at commits
  · next place planned => exact ⟨place, _, _, Prod.ext planned rfl, commits⟩
  · cases commits

end

/-- An operation that writes has read the cursors before. -/
theorem reading_of_commitment (commits : (op.commitment r).isSome) : (op.reading r).isSome := by
  obtain ⟨written, commits⟩ := Option.isSome_iff_exists.1 commits
  cases op with
  | feed left schedule =>
    obtain ⟨busy, place, r', rest, planned, -⟩ := commitment_feed_inv commits
    rw [reading_feed busy]
    exact Renderer.answer_of_planChunk planned
  | _ => cases commits

/-- Whether an operation silences the whole ring. -/
def silences : Operation → Bool
  | endFlush | finishEnd _ => true
  | _ => false

/-- The ring after an operation that leaves it connected. -/
def ringAfter (op : Operation) (r : Renderer) (v : RingView) : RingView :=
  if op.silences then v.clear else (v.read (op.reading r)).put (op.commitment r)

theorem sound_ringAfter (sound : v.Sound) (op : Operation) (r : Renderer) :
    (op.ringAfter r v).Sound := by
  unfold ringAfter
  split
  · exact sound.clear
  · exact (sound.read _).put _

/-- Whether an operation has nothing to do with the bytes of the ring. -/
def isAside : Operation → Bool
  | connect _ | disconnect | close | endFlush | finishEnd _ | feed _ _ | drain _ => false
  | _ => true

theorem keeps_apply (aside : op.isAside = true) (harmless : op.harmless = true) (r : Renderer) :
    r.Keeps (op.apply r) := by
  cases op with
  | connect | disconnect | close | endFlush | finishEnd | feed | drain => cases aside
  | pause => exact r.keeps_pause
  | start origin => exact r.keeps_start origin
  | stop => exact r.keeps_stop
  | setVolume volume => exact r.keeps_setVolume volume
  | setPan pan => exact r.keeps_setPan pan
  | screen sample => exact r.keeps_screen sample
  | disturb act => exact r.keeps_disturb harmless
  | _ => exact ⟨rfl⟩

theorem ringAfter_of_aside (aside : op.isAside = true) : op.ringAfter r v = v := by
  cases op with
  | connect | disconnect | close | endFlush | finishEnd | feed | drain => cases aside
  | _ => rfl

theorem ringView_feed {left : Feed} {schedule : Schedule} (harmless : schedule.harmless = true)
    (sound : v.Sound) (h : r.ringView = some v) :
    ((feed left schedule).apply r).ringView = some ((feed left schedule).ringAfter r v) := by
  rw [apply, ringAfter, if_neg (show ¬(feed left schedule).silences from Bool.false_ne_true)]
  by_cases idle : left.data.isEmpty ∨ r.state ≠ .running
  · rw [reading_feed_of_idle idle, commitment_feed_of_idle idle]
    exact (Renderer.keeps_feedPass_of_idle idle schedule).ringView_eq.trans h
  · rw [reading_feed idle, commitment_feed idle, Renderer.feedPass_of_not_idle idle]
    rcases planned : r.planChunk left.writeAt schedule with ⟨_ | _ | chunk, r', rest⟩
    all_goals have view := Renderer.ringView_of_planChunk harmless sound h planned
    · exact view
    · exact view
    · exact Renderer.ringView_writeChunk (sound.read _) view left.data chunk

theorem ringView_drain {schedule : Schedule} (harmless : schedule.harmless = true)
    (sound : v.Sound) (h : r.ringView = some v) :
    ((drain schedule).apply r).ringView = some ((drain schedule).ringAfter r v) := by
  rw [apply, ringAfter, if_neg (show ¬(drain schedule).silences from Bool.false_ne_true)]
  rcases passed : r.drainPass schedule with ⟨outcome, r', rest⟩
  cases Renderer.Drained.of_drainPass passed with
  | interrupted idle =>
    rw [reading_drain_of_idle idle]
    exact h
  | failed busy looked | found busy looked =>
    rw [reading_drain busy]
    have view := Renderer.ringView_of_look harmless sound h (fun _ => ⟨true, rfl⟩) looked
    exact view

/-- What a harmless operation leaves of the ring of a connection: nothing, once the buffer is given
back, and otherwise what it silenced, looked at and wrote. -/
theorem ringView_apply (harmless : op.harmless = true) (sound : v.Sound)
    (h : r.ringView = some v) :
    (op.apply r).ringView = none ∨ (op.apply r).ringView = some (op.ringAfter r v) := by
  by_cases aside : op.isAside = true
  · right
    rw [(keeps_apply aside harmless r).ringView_eq, ringAfter_of_aside aside]
    exact h
  cases op with
  | connect format =>
    rcases r.connect_cases format with keeps | ⟨disconnected, -⟩
    · exact .inr (keeps.ringView_eq.trans h)
    · cases h.symm.trans disconnected
  | disconnect =>
    rcases r.disconnect_cases with same | released
    · exact .inr (by rw [apply, same]; exact h)
    · exact .inl (by rw [apply, released, Renderer.ringView_releaseBuffer])
  | close => exact .inl (Renderer.ringView_releaseBuffer _)
  | endFlush => exact .inr (Renderer.ringView_endFlush sound h)
  | finishEnd drained => exact .inr (Renderer.ringView_finishEnd sound h drained)
  | feed => exact .inr (ringView_feed harmless sound h)
  | drain => exact .inr (ringView_drain harmless sound h)
  | _ => exact absurd rfl aside

/-- Without a connection only connecting brings a ring in, a silent one. -/
theorem ringView_apply_of_none (harmless : op.harmless = true)
    (h : r.ringView = none) :
    ∀ v ∈ (op.apply r).ringView, v.Sound ∧ v = v.clear := by
  have kept {r' : Renderer} (keeps : r.Keeps r') : ∀ v ∈ r'.ringView, v.Sound ∧ v = v.clear := by
    rw [keeps.ringView_eq, h]
    nofun
  have disconnected : r.connection = none := by
    unfold Renderer.ringView Renderer.tracker at h
    simpa using h
  by_cases aside : op.isAside = true
  · exact kept (keeps_apply aside harmless r)
  cases op with
  | connect format =>
    rcases r.connect_cases format with keeps | ⟨-, v, view, silent, sound⟩
    · exact kept keeps
    · rw [apply, view]
      rintro _ ⟨⟩
      exact ⟨sound, silent⟩
  | disconnect =>
    rcases r.disconnect_cases with same | released
    · rw [apply, same]
      exact kept r.keeps_refl
    · rw [apply, released, Renderer.ringView_releaseBuffer]
      nofun
  | close =>
    rw [apply, Renderer.close, Renderer.ringView_releaseBuffer]
    nofun
  | endFlush => exact kept (Renderer.keeps_endFlush_of_none disconnected)
  | finishEnd drained => exact kept (Renderer.keeps_finishEnd_of_none disconnected drained)
  | feed left schedule => exact kept (Renderer.keeps_feedPass_of_none disconnected left schedule)
  | drain schedule => exact kept (Renderer.keeps_drainPass_of_none disconnected schedule)
  | _ => exact absurd rfl aside

end Operation

end Playout
