import Playout.Proofs.Session.Settling
import Playout.Proofs.Session.Veil

/-!
# Renderers that nobody can tell apart

Two renderers with calls under way are indistinguishable if every row of deeds leaves them with the
same display, and every deed after it has the same reply (`Traffic.Indistinguishable`).

The origin of stream time counts only while the stream runs: whatever lets it run sets the origin
first. The level of the interrupt does not count at all. To erase both as far as they do not count
(`Renderer.sight`) changes no reply and nothing of what is left, so that renderers of the same sight
are indistinguishable (`Traffic.indistinguishable_of_sight`).
-/

namespace Playout

namespace Renderer

/-- What counts of a renderer. -/
def sight (r : Renderer) : Renderer :=
  r.veil (if r.state = .running then r.streamStart else 0) fun _ => true

variable {r r' : Renderer}

theorem sight_veil {origin : Ticks} (level : Bool → Bool)
    (same : r.state = .running → origin = r.streamStart) :
    (r.veil origin level).sight = r.sight := by
  unfold sight
  rw [state_veil]
  by_cases running : r.state = .running
  · rw [if_pos running, if_pos running, same running]
    rfl
  · rw [if_neg running, if_neg running]
    rfl

/-- The stream time of a stream that runs depends on its origin, that of another one is not read. -/
theorem streamTime_veil {origin : Ticks} {level : Bool → Bool} (r : Renderer)
    (same : r.state = .running → origin = r.streamStart) (running : r.state = .running) :
    (r.veil origin level).streamTime = r.streamTime := by
  unfold streamTime
  rw [clockTime_veil, show (r.veil origin level).streamStart = origin from rfl, same running]

/-- Whatever commutes with changing what does not count, and lets no stream run, keeps the sight. -/
theorem sight_of_commutes {f : Renderer → Renderer}
    (commutes : ∀ (origin : Ticks) (level : Bool → Bool), level true = true →
      (r.state = .running → origin = r.streamStart) →
      f (r.veil origin level) = (f r).veil origin level)
    (idle : (f r).state = .running → r.state = .running) :
    (f r.sight).sight = (f r).sight := by
  have kept : f r = (f r).veil r.streamStart id := commutes r.streamStart id rfl fun _ => rfl
  have origin_eq : (f r).streamStart = r.streamStart :=
    (congrArg Renderer.streamStart kept).trans rfl
  have erased := commutes (if r.state = .running then r.streamStart else 0) (fun _ => true) rfl
    fun running => if_pos running
  rw [show f r.sight = _ from erased]
  refine sight_veil _ fun running => ?_
  rw [if_pos (idle running), origin_eq]

theorem sight_sight (r : Renderer) : r.sight.sight = r.sight :=
  sight_veil _ fun running => if_pos running

/-! ### Operations that set the origin or lower the interrupt -/

theorem pause_sight (r : Renderer) :
    r.sight.pause.map id sight = r.pause.map id sight := by
  rcases r with ⟨_, _, _ | _ | _, _ | c⟩ <;> rfl

theorem start_sight (r : Renderer) (origin : Ticks) :
    (r.sight.start origin).map id sight = (r.start origin).map id sight := by
  by_cases running : r.state = .running
  · rw [start, start, if_pos running, if_pos (show r.sight.state = .running from running)]
    exact congrArg (Prod.mk _) (sight_veil _ fun _ => if_pos running)
  -- The preparation sets the origin, and from the stopped state the interrupt too.
  have alike : ∃ level, r.sight.prepared origin = (r.prepared origin).veil origin level := by
    rw [prepared_eq, prepared_eq]
    by_cases stopped : r.state = .stopped
    · exact ⟨id, by simp [sight, veil, stopped]⟩
    · exact ⟨fun _ => true, by simp [sight, veil, stopped]⟩
  obtain ⟨level, alike⟩ := alike
  have same : r.prepared origin = (r.prepared origin).veil origin id := by
    rw [prepared_eq]
    rfl
  have origin_eq : (r.start origin).2.streamStart = origin :=
    (congrArg (·.2.streamStart) (start_veil running running same)).trans rfl
  rw [start_veil running (show r.sight.state ≠ .running from running) alike]
  exact Prod.ext rfl (sight_veil level fun _ => origin_eq.symm)

theorem endFlush_sight (r : Renderer) :
    r.sight.endFlush.map id sight = r.endFlush.map id sight := by
  have reopened : r.sight.reopen
      = r.reopen.veil (if r.state = .running then r.streamStart else 0) id := rfl
  cases connected : r.connection with
  | none =>
    rw [endFlush_of_none connected,
      endFlush_of_none (show r.sight.connection = none from connected), reopened]
    exact congrArg (Prod.mk _) (sight_veil _ fun running => if_pos running)
  | some c =>
    rw [endFlush_of_connection connected,
      endFlush_of_connection (show r.sight.connection = some c from connected), reopened]
    refine congrArg (Prod.mk _) ?_
    exact sight_veil (r := r.reopen.setTracker c.tracker.clear.2) id fun running => if_pos running

end Renderer

namespace Operation

variable {r : Renderer}

/-- Only a start lets a stream run. -/
theorem running_of_apply {op : Operation} (other : ∀ origin, op ≠ .start origin)
    (running : (op.apply r).state = .running) : r.state = .running := by
  have state_eq {state : StreamState} {rest : Bool × Option Ticks}
      (stage : (op.apply r).stage = (state, rest)) : state = .running :=
    (congrArg Prod.fst stage).symm.trans running
  by_cases leaves : op.leavesStage = true
  · exact state_eq (op.stage_apply leaves r)
  cases op with
  | pause => exact absurd (state_eq r.stage_pause) nofun
  | start origin => exact absurd rfl (other origin)
  | stop =>
    have stage := r.stage_stop
    split at stage
    · exact state_eq stage
    · exact absurd (state_eq stage) nofun
  | endFlush => exact state_eq r.stage_endFlush
  | markEnd => exact running
  | screen sample =>
    rcases r.stage_screen sample with ⟨-, same⟩ | ⟨-, -, time, stage⟩
    · exact state_eq same
    · exact state_eq stage
  | _ => exact absurd rfl leaves

/-- Sets the origin of stream time, or lowers the interrupt. -/
def resets : Operation → Bool
  | pause | start _ | endFlush => true
  | _ => false

theorem apply_veil {op : Operation} (ordinary : op.resets = false) {origin : Ticks}
    {level : Bool → Bool} (raised : level true = true)
    (same : r.state = .running → origin = r.streamStart) :
    op.apply (r.veil origin level) = (op.apply r).veil origin level := by
  cases op with
  | pause | start | endFlush => cases ordinary
  | connect format => exact congrArg Prod.snd (r.connect_veil format)
  | disconnect => exact congrArg Prod.snd r.disconnect_veil
  | stop => exact r.stop_veil raised
  | setVolume volume => exact congrArg Prod.snd (r.setVolume_veil volume)
  | setPan pan => exact congrArg Prod.snd (r.setPan_veil pan)
  | close => exact r.close_veil
  | screen sample => exact congrArg Prod.snd (r.screen_veil sample)
  | feed left schedule =>
    exact congrArg (·.2.1) (r.feedPass_veil raised (r.streamTime_veil same) left schedule)
  | drain schedule => exact congrArg (·.2.1) (r.drainPass_veil raised schedule)
  | finishEnd drained => exact congrArg Prod.snd (r.finishEnd_veil drained)
  | disturb act => exact r.disturb_veil raised act
  | beginFlush =>
    show (r.veil origin level).beginFlush = r.beginFlush.veil origin level
    simp [Renderer.beginFlush, Renderer.veil, raised]
  | _ => rfl

/-- An operation leaves the same sight, whatever does not count. -/
theorem apply_sight (op : Operation) (r : Renderer) :
    (op.apply r.sight).sight = (op.apply r).sight := by
  cases resets : op.resets with
  | true =>
    cases op with
    | pause => exact congrArg Prod.snd r.pause_sight
    | start origin => exact congrArg Prod.snd (r.start_sight origin)
    | endFlush => exact congrArg Prod.snd r.endFlush_sight
    | _ => cases resets
  | false =>
    refine Renderer.sight_of_commutes (fun _ _ => apply_veil resets) (running_of_apply ?_)
    rintro origin rfl
    cases resets

theorem reply_sight (op : Operation) (r : Renderer) : op.reply r.sight = op.reply r := by
  cases op with
  | connect format => exact congrArg (Reply.answer ·.1) (r.connect_veil format)
  | disconnect => exact congrArg (Reply.answer ·.1) r.disconnect_veil
  | pause => exact congrArg (Reply.answer ·.1) r.pause_sight
  | start origin => exact congrArg (Reply.answer ·.1) (r.start_sight origin)
  | endFlush => exact congrArg (Reply.answer ·.1) r.endFlush_sight
  | setVolume volume => exact congrArg (Reply.answer ·.1) (r.setVolume_veil volume)
  | setPan pan => exact congrArg (Reply.answer ·.1) (r.setPan_veil pan)
  | _ => rfl

end Operation

/-! ### Calls under way -/

/-- A call goes on alike, whatever does not count. -/
theorem Stage.go_sight (stage : Stage) (r : Renderer) (schedule : Schedule) :
    (stage.go r.sight schedule).1 = (stage.go r schedule).1
      ∧ (stage.go r.sight schedule).2.sight = (stage.go r schedule).2.sight := by
  have passed (left : Feed) : (r.sight.feedPass left schedule).1 = (r.feedPass left schedule).1 :=
    (congrArg Prod.fst (r.feedPass_veil rfl
      (r.streamTime_veil fun running => if_pos running) left schedule)).trans rfl
  have looked : (r.sight.drainPass schedule).1 = (r.drainPass schedule).1 :=
    (congrArg Prod.fst (r.drainPass_veil rfl schedule)).trans rfl
  constructor
  · cases stage with
    | feed left => exact congrArg Onward.ofPass (passed left)
    | wake left =>
      have woken : r.sight.feedWake = r.feedWake := rfl
      unfold go
      rw [woken]
      cases r.feedWake with
      | some result => rfl
      | none => exact congrArg Onward.ofPass (passed left)
    | drain => exact congrArg Onward.ofDrain looked
    | finish drained => exact congrArg (Onward.ofFinish ·.1) (r.finishEnd_veil drained)
  · have same : stage.operation r.sight schedule = stage.operation r schedule := by
      cases stage <;> rfl
    rw [stage.renderer_go, stage.renderer_go, same]
    cases stage.operation r schedule with
    | none => exact r.sight_sight
    | some op => exact op.apply_sight r

namespace Traffic

def sight (s : Traffic) : Traffic := ⟨s.renderer.sight, s.calls⟩

/-- A deed has the same reply and leaves the same, whatever does not count. -/
theorem perform_sight (deed : Deed) (s : Traffic) :
    (s.sight.perform deed).1 = (s.perform deed).1
      ∧ (s.sight.perform deed).2.sight = (s.perform deed).2.sight := by
  cases deed with
  | operate op outside =>
    refine ⟨op.reply_sight s.renderer, ?_⟩
    exact congrArg (Traffic.mk · s.calls) (op.apply_sight s.renderer)
  | endOfStream =>
    refine ⟨rfl, ?_⟩
    exact congrArg (Traffic.mk · _) (Operation.markEnd.apply_sight s.renderer)
  | receive sample =>
    have screened : (s.renderer.sight.screen sample).1 = (s.renderer.screen sample).1 :=
      (congrArg Prod.fst (s.renderer.screen_veil sample)).trans rfl
    have left := (Operation.screen sample).apply_sight s.renderer
    simp only [perform, sight, screened, true_and]
    exact congrArg (Traffic.mk · _) left
  | go i schedule =>
    simp only [perform, sight]
    cases s.calls[i]? with
    | none =>
      exact ⟨rfl, congrArg (Traffic.mk · _) s.renderer.sight_sight⟩
    | some stage =>
      obtain ⟨onward, left⟩ := stage.go_sight s.renderer schedule
      simp only [onward, left, and_self]

/-- Rows of deeds leave the same of what has the same sight. -/
theorem sight_performAll {s s' : Traffic} (same : s'.sight = s.sight) (deeds : List Deed) :
    (performAll deeds s').sight = (performAll deeds s).sight := by
  induction deeds generalizing s s' with
  | nil => exact same
  | cons deed deeds ih =>
    refine ih ?_
    rw [← (perform_sight deed s').2, ← (perform_sight deed s).2, same]

end Traffic

/-! ### What can be seen -/

/-- What a renderer shows to whoever asks. -/
structure Display where
  state : StreamState
  /-- Whether the last change of state has taken effect. -/
  settled : Bool
  ended : Bool
  flushing : Bool
  format : Option WaveFormat
  mediaTime : Option Ticks
  volume : Int
  pan : Int
  report : StatsReport
  /-- The newest buffer of the device, as its owner sees it. -/
  buffer : Option SoundBuffer
  deriving Repr

def Renderer.display (r : Renderer) : Display where
  state := r.state
  settled := r.settled
  ended := r.ended
  flushing := r.flushing
  format := r.format
  mediaTime := r.mediaTime
  volume := r.volume
  pan := r.pan
  report := r.report
  buffer := r.currentBuffer

namespace Traffic

/-- No row of deeds ends with different displays, or with different replies to one more deed. -/
def Indistinguishable (s s' : Traffic) : Prop :=
  ∀ deeds : List Deed,
    (performAll deeds s').renderer.display = (performAll deeds s).renderer.display
      ∧ ∀ deed : Deed,
          ((performAll deeds s').perform deed).1 = ((performAll deeds s).perform deed).1

/-- What has the same sight cannot be told apart. -/
theorem indistinguishable_of_sight {s s' : Traffic} (same : s'.sight = s.sight) :
    s.Indistinguishable s' := by
  intro deeds
  have left := sight_performAll same deeds
  refine ⟨?_, fun deed => ?_⟩
  · have shown : (performAll deeds s').sight.renderer.display
        = (performAll deeds s).sight.renderer.display := by
      rw [left]
    exact shown
  · rw [← (perform_sight deed (performAll deeds s')).1,
      ← (perform_sight deed (performAll deeds s)).1, left]

end Traffic

end Playout
