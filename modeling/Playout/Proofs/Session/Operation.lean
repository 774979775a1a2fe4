import Playout.Proofs.Session.Endings
import Playout.Renderer.Call

/-!
# Operations

Everything that happens to a renderer happens in operations, each of which holds it from beginning
to end: a control operation, a pass of a call, an act of the outside. `Operation` lists them, so
that a property of every interleaving is one of every row of operations.

A call that hands over a sample is a row of them with nothing in between but its own waits
(`exists_applyAll_receive`, `exists_applyAll_resume`, `exists_applyAll_endOfStream`).
-/

namespace Playout

/-- What happens to a renderer at one go. -/
inductive Operation
  | connect (format : WaveFormat)
  | disconnect
  | pause
  | start (origin : Ticks)
  | stop
  | beginFlush
  | endFlush
  | setVolume (volume : Int)
  | setPan (pan : Int)
  | setManualClock (now : Ticks)
  | turnClock (now : Ticks)
  | advanceClock (ticks : Ticks)
  | dropClock
  | clearClock
  | useReferenceClock
  | listen
  | deafen
  | takeEvents
  | close
  /-- A sample is screened. -/
  | screen (sample : MediaSample)
  /-- A pass that feeds what is left of a sample. -/
  | feed (feed : Feed) (schedule : Schedule)
  /-- The end of the stream is announced. -/
  | markEnd
  /-- A pass that looks whether the stream is drained. -/
  | drain (schedule : Schedule)
  | finishEnd (drained : Bool)
  /-- The outside acts. -/
  | disturb (act : Disturbance)
  deriving DecidableEq, Repr

namespace Operation

def apply (op : Operation) (r : Renderer) : Renderer :=
  match op with
  | connect format => (r.connect format).2
  | disconnect => r.disconnect.2
  | pause => r.pause.2
  | start origin => (r.start origin).2
  | stop => r.stop
  | beginFlush => r.beginFlush
  | endFlush => r.endFlush.2
  | setVolume volume => (r.setVolume volume).2
  | setPan pan => (r.setPan pan).2
  | setManualClock now => r.setManualClock now
  | turnClock now => r.turnClock now
  | advanceClock ticks => (r.advanceClock ticks).2
  | dropClock => r.dropClock
  | clearClock => r.clearClock
  | useReferenceClock => r.useReferenceClock
  | listen => r.listen
  | deafen => r.deafen
  | takeEvents => r.takeEvents.2
  | close => r.close
  | screen sample => (r.screen sample).2
  | feed left schedule => (r.feedPass left schedule).2.1
  | markEnd => r.markEnd
  | drain schedule => (r.drainPass schedule).2.1
  | finishEnd drained => (r.finishEnd drained).2
  | disturb act => r.disturb act

/-- The operations take place one after the other. -/
def applyAll (ops : List Operation) (r : Renderer) : Renderer :=
  ops.foldl (fun r op => op.apply r) r

@[simp] theorem applyAll_nil (r : Renderer) : applyAll [] r = r := rfl

@[simp] theorem applyAll_cons (op : Operation) (ops : List Operation) (r : Renderer) :
    applyAll (op :: ops) r = applyAll ops (op.apply r) := rfl

end Operation

/-! ### The outside keeps its hands off -/

/-- Neither writes to the ring nor lets a lock fail. -/
def Disturbance.harmless : Disturbance → Bool
  | fill _ | failLock => false
  | _ => true

def Schedule.harmless (schedule : Schedule) : Bool := schedule.all (·.all Disturbance.harmless)

theorem Schedule.harmless_head {acts : List Disturbance} {rest : Schedule}
    (harmless : Schedule.harmless (acts :: rest) = true) :
    acts.all Disturbance.harmless = true := by
  rw [Schedule.harmless, List.all_cons, Bool.and_eq_true] at harmless
  exact harmless.1

namespace Operation

/-- Nothing but the renderer writes to the ring meanwhile, and no lock is made to fail. -/
def harmless : Operation → Bool
  | feed _ schedule | drain schedule => schedule.harmless
  | disturb act => act.harmless
  | _ => true

end Operation

/-! ### Calls as rows of operations -/

/-- A part of a call that is made with a schedule. -/
def Operation.Within (schedule : Schedule) : Operation → Prop
  | screen _ | markEnd | finishEnd _ => True
  | feed _ rest | drain rest => rest <:+ schedule
  | _ => False

namespace Operation

variable {op : Operation} {schedule rest : Schedule}

theorem Within.mono (within : op.Within rest) (suffix : rest <:+ schedule) :
    op.Within schedule := by
  cases op with
  | feed | drain => exact List.IsSuffix.trans within suffix
  | screen | markEnd | finishEnd => trivial
  | _ => exact within.elim

/-- With a harmless schedule every part of a call is harmless. -/
theorem Within.harmless (within : op.Within schedule) (harmless : schedule.harmless = true) :
    op.harmless = true := by
  cases op with
  | feed left rest | drain rest =>
    obtain ⟨used, rfl⟩ := within
    rw [Schedule.harmless, List.all_append, Bool.and_eq_true] at harmless
    exact harmless.2
  | screen | markEnd | finishEnd => rfl
  | _ => exact within.elim

end Operation

namespace Renderer

open Operation (applyAll applyAll_cons)

theorem suffix_of_look {r r' : Renderer} {schedule rest : Schedule}
    {work : Connection → Except Failure α × PositionTracker} {answer : Except RenderError α}
    (h : r.look schedule work = (answer, r', rest)) :
    rest <:+ schedule := by
  have tail := r.look_schedule schedule work
  rw [h] at tail
  rw [show rest = schedule.tail from tail]
  exact List.tail_suffix schedule

theorem suffix_of_planChunk {r r' : Renderer} {writeAt : Option Ticks}
    {schedule rest : Schedule} {answer : Except RenderError (Option Chunk)}
    (h : r.planChunk writeAt schedule = (answer, r', rest)) :
    rest <:+ schedule := by
  cases Planned.of_planChunk h with
  | overflow | disconnected => exact List.suffix_refl _
  | failed timed looked | found timed looked => exact suffix_of_look looked

theorem suffix_of_feedPass {r r' : Renderer} {feed : Feed} {schedule rest : Schedule}
    {outcome : PassEnd} (h : r.feedPass feed schedule = (outcome, r', rest)) :
    rest <:+ schedule := by
  by_cases idle : feed.data.isEmpty ∨ r.state ≠ .running
  · rcases feedPass_idle_cases idle schedule with ⟨-, ends⟩ | ends <;>
      (cases ends.symm.trans h; exact List.suffix_refl _)
  rw [feedPass_of_not_idle idle] at h
  rcases planned : r.planChunk feed.writeAt schedule with ⟨_ | _ | chunk, r₁, later⟩ <;>
    (rw [planned] at h; cases h; exact suffix_of_planChunk planned)

section

variable {r r' : Renderer} {left left' : Feed} {schedule rest : Schedule}

theorem feedTurn_of_wait (h : r.feedPass left schedule = (.wait left', r', rest)) :
    r.feedTurn left schedule = (.waiting (.receive left'), r', rest) := by
  rw [feedTurn]
  split <;> (next passed => cases h.symm.trans passed; try rfl)

theorem feedTurn_of_proceed (h : r.feedPass left schedule = (.proceed left', r', rest)) :
    r.feedTurn left schedule = r'.feedTurn left' rest := by
  rw [feedTurn]
  split <;> (next passed => cases h.symm.trans passed; try rfl)

theorem feedTurn_of_returned (h : r.feedPass left schedule = (.returned (.ok ()), r', rest)) :
    r.feedTurn left schedule = (.returned (.ok (.receipt .rendered)), r', rest) := by
  rw [feedTurn]
  split <;> (next passed => cases h.symm.trans passed; try rfl)

theorem feedTurn_of_failed {e : RenderError}
    (h : r.feedPass left schedule = (.returned (.error e), r', rest)) :
    r.feedTurn left schedule = (.returned (.error e), r', rest) := by
  rw [feedTurn]
  split <;> (next passed => cases h.symm.trans passed; try rfl)

end

theorem eq_apply_of_feedPass {r r' : Renderer} {feed : Feed} {schedule rest : Schedule}
    {outcome : PassEnd} (h : r.feedPass feed schedule = (outcome, r', rest)) :
    r' = (Operation.feed feed schedule).apply r := by
  rw [Operation.apply, h]

/-- Passes after one another are a row of operations. -/
theorem exists_applyAll_feedTurn (r : Renderer) (feed : Feed) (schedule : Schedule) :
    ∃ ops, (r.feedTurn feed schedule).2.1 = applyAll ops r
      ∧ ∀ op ∈ ops, op.Within schedule := by
  -- The recursion follows the passes: every case but the last ends the turn.
  fun_induction feedTurn r feed schedule with
  | case1 r feed schedule r' rest h
  | case2 r feed schedule e r' rest h
  | case3 r feed schedule feed' r' rest h =>
    refine ⟨[.feed feed schedule], eq_apply_of_feedPass h, ?_⟩
    simp [Operation.Within]
  | case4 r feed schedule feed' r' rest h _ ih =>
    obtain ⟨ops, reached, within⟩ := ih
    refine ⟨.feed feed schedule :: ops, ?_, ?_⟩
    · rw [reached, eq_apply_of_feedPass h, applyAll_cons]
    · rintro op (_ | ⟨_, later⟩)
      · exact List.suffix_refl schedule
      · exact (within op later).mono (suffix_of_feedPass h)

/-- Looking once whether the stream is drained, and finishing it then. -/
theorem exists_applyAll_drainTurn (r : Renderer) (schedule : Schedule) :
    ∃ ops, (r.drainTurn schedule).2.1 = applyAll ops r ∧ ∀ op ∈ ops, op.Within schedule := by
  have finish (drained : Bool) :
      ∃ ops, ((r.drainPass schedule).2.1.finishEnd drained).2 = applyAll ops r
        ∧ ∀ op ∈ ops, op.Within schedule :=
    ⟨[.drain schedule, .finishEnd drained], rfl, by simp [Operation.Within]⟩
  unfold drainTurn
  dsimp only
  rcases passed : r.drainPass schedule with ⟨outcome, r', rest⟩
  rw [passed] at finish
  match outcome with
  | .drained =>
    obtain ⟨ops, reached, within⟩ := finish true
    refine ⟨ops, ?_, within⟩
    rw [← reached]
    dsimp only
    split <;> (next finished => rw [finished])
  | .interrupted =>
    obtain ⟨ops, reached, within⟩ := finish false
    refine ⟨ops, ?_, within⟩
    rw [← reached]
    dsimp only
    split <;> (next finished => rw [finished])
  | .failed _ | .wait =>
    refine ⟨[.drain schedule], ?_, by simp [Operation.Within]⟩
    rw [applyAll_cons, Operation.apply, passed, Operation.applyAll_nil]

/-- Handing over a sample is a row of operations that begins with its screening. -/
theorem exists_applyAll_receive (r : Renderer) (s : MediaSample) (schedule : Schedule) :
    ∃ ops, (r.receive s schedule).2.1 = applyAll (.screen s :: ops) r
      ∧ ∀ op ∈ ops, op.Within schedule := by
  have feeding (feed : Feed) :
      ∃ ops, ((r.screen s).2.feedTurn feed schedule).2.1 = applyAll (.screen s :: ops) r
        ∧ ∀ op ∈ ops, op.Within schedule :=
    exists_applyAll_feedTurn _ feed schedule
  have done : (r.screen s).2 = applyAll [.screen s] r := rfl
  unfold receive
  split
  · next screened => exact ⟨[], by rw [← done, screened], by simp⟩
  · next screened => exact ⟨[], by rw [← done, screened], by simp⟩
  · next feed r' screened =>
    rw [screened] at feeding
    exact feeding feed

/-- Announcing the end of the stream is a row of operations that begins with the mark. -/
theorem exists_applyAll_endOfStream (r : Renderer) (schedule : Schedule) :
    ∃ ops, (r.endOfStream schedule).2.1 = applyAll (.markEnd :: ops) r
      ∧ ∀ op ∈ ops, op.Within schedule :=
  exists_applyAll_drainTurn r.markEnd schedule

/-- Going on after a wait is a row of operations. -/
theorem exists_applyAll_resume (r : Renderer) (call : Call) (schedule : Schedule) :
    ∃ ops, (r.resume call schedule).2.1 = applyAll ops r ∧ ∀ op ∈ ops, op.Within schedule := by
  unfold resume
  split
  · exact r.exists_applyAll_drainTurn schedule
  split
  · exact ⟨[], rfl, by simp⟩
  · exact ⟨[], rfl, by simp⟩
  · exact r.exists_applyAll_feedTurn _ schedule

/-! ### A small stream -/

/-- A renderer whose rings play for a hundredth of a second. -/
def unconnected : Renderer where
  config := { maxFill := .ofMilliseconds 5, bufferDuration := .ofMilliseconds 10 }
  device := { config := { mode := .manual } }

/-- A stream that runs on a ring of ten bytes. -/
def tenBytes : Renderer :=
  Operation.applyAll [.connect (.pcm 1000 1 8), .start 0] unconnected

end Renderer

end Playout
