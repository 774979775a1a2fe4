import Playout.Proofs.Session.Operation

/-!
# Calls under way

A call that hands over a sample, or that announces the end of the stream, holds the renderer several
times, and in between the renderer is free for the others. `Traffic` is a renderer with the calls
that are under way on it, each in its `Stage`: what it does when it holds the renderer next. A
`Deed` is what happens at one go. It is an operation from outside, the beginning of a call, or that
a call under way goes on.

Everything in it is deterministic: the deeds are the schedule. The turns of a call that nobody
disturbs are rows of deeds (`Traffic.exists_deeds_receive` and the two theorems after it).

## Design points

* **A call may be held up between any two passes,** also where it keeps the renderer. This only adds
  to what can happen.
* **A reply is what the caller sees.** A call that goes on has no reply yet; what it has left is its
  own affair.
-/

namespace Playout

/-- What a call does when it holds the renderer next. -/
inductive Stage
  /-- It feeds what is left of a sample. -/
  | feed (left : Feed)
  /-- The same, after a wait. -/
  | wake (left : Feed)
  /-- It looks whether the stream is drained. -/
  | drain
  /-- It silences the ring and reports. -/
  | finish (drained : Bool)
  deriving DecidableEq, Repr

/-- What becomes of a call that has held the renderer. -/
inductive Onward
  | returned (result : Except RenderError Outcome)
  | next (stage : Stage)

namespace Onward

def ofScreen : Except RenderError Renderer.Admission → Onward
  | .error e => .returned (.error e)
  | .ok (.done receipt) => .returned (.ok (.receipt receipt))
  | .ok (.feed left) => .next (.feed left)

def ofPass : PassEnd → Onward
  | .returned (.ok ()) => .returned (.ok (.receipt .rendered))
  | .returned (.error e) => .returned (.error e)
  | .proceed left => .next (.feed left)
  | .wait left => .next (.wake left)

def ofDrain : DrainEnd → Onward
  | .drained => .next (.finish true)
  | .interrupted => .next (.finish false)
  | .failed e => .returned (.error e)
  | .wait => .next .drain

def ofFinish : Except RenderError Unit → Onward
  | .ok () => .returned (.ok .ended)
  | .error e => .returned (.error e)

/-- The stage of the call, if it has not returned. -/
def stages : Onward → List Stage
  | returned _ => []
  | next stage => [stage]

end Onward

/-- A call holds the renderer. -/
def Stage.go (stage : Stage) (r : Renderer) (schedule : Schedule) : Onward × Renderer :=
  match stage with
  | feed left => (.ofPass (r.feedPass left schedule).1, (r.feedPass left schedule).2.1)
  | wake left =>
    match r.feedWake with
    | some result => (.ofPass (.returned result), r)
    | none => (.ofPass (r.feedPass left schedule).1, (r.feedPass left schedule).2.1)
  | drain => (.ofDrain (r.drainPass schedule).1, (r.drainPass schedule).2.1)
  | finish drained => (.ofFinish (r.finishEnd drained).1, (r.finishEnd drained).2)

/-- The operation that a call amounts to that holds the renderer. One that is woken to return does
nothing. -/
def Stage.operation (stage : Stage) (r : Renderer) (schedule : Schedule) : Option Operation :=
  match stage with
  | feed left => some (.feed left schedule)
  | wake left => if r.feedWake.isSome then none else some (.feed left schedule)
  | drain => some (.drain schedule)
  | finish drained => some (.finishEnd drained)

theorem Stage.renderer_go (stage : Stage) (r : Renderer) (schedule : Schedule) :
    (stage.go r schedule).2 = ((stage.operation r schedule).map (·.apply r)).getD r := by
  cases stage with
  | feed left | drain | finish drained => rfl
  | wake left => cases woken : r.feedWake <;> simp [go, operation, woken, Operation.apply]

/-- What is seen of a deed besides the state that it leaves. -/
inductive Reply
  | nothing
  | answer (answer : Except RenderError Unit)
  | time (now : Option Ticks)
  | events (events : List RenderEvent)
  | returned (result : Except RenderError Outcome)
  /-- The call goes on. -/
  | underWay

def Onward.reply : Onward → Reply
  | returned result => .returned result
  | next _ => .underWay

/-- What an operation from outside answers. -/
def Operation.reply (op : Operation) (r : Renderer) : Reply :=
  match op with
  | connect format => .answer (r.connect format).1
  | disconnect => .answer r.disconnect.1
  | pause => .answer r.pause.1
  | start origin => .answer (r.start origin).1
  | endFlush => .answer r.endFlush.1
  | setVolume volume => .answer (r.setVolume volume).1
  | setPan pan => .answer (r.setPan pan).1
  | advanceClock ticks => .time (r.advanceClock ticks).1
  | takeEvents => .events r.takeEvents.1
  | _ => .nothing

/-- Whether an operation is no part of a call. -/
def Operation.isOutside : Operation → Bool
  | screen _ | feed _ _ | markEnd | drain _ | finishEnd _ => false
  | _ => true

/-- What happens at one go. -/
inductive Deed
  /-- A controller or the outside acts. -/
  | operate (op : Operation) (outside : op.isOutside = true)
  /-- A call begins that hands over a sample. -/
  | receive (sample : MediaSample)
  /-- A call begins that announces the end of the stream. -/
  | endOfStream
  /-- Call number `i` of those under way holds the renderer again. -/
  | go (i : Nat) (schedule : Schedule)

/-- A renderer with the calls under way on it. -/
structure Traffic where
  renderer : Renderer
  calls : List Stage := []
  deriving DecidableEq, Repr

namespace Traffic

/-- The reply to a deed, and what it leaves. -/
def perform (deed : Deed) (s : Traffic) : Reply × Traffic :=
  match deed with
  | .operate op _ => (op.reply s.renderer, ⟨op.apply s.renderer, s.calls⟩)
  | .receive sample =>
    let onward := Onward.ofScreen (s.renderer.screen sample).1
    (onward.reply, ⟨(s.renderer.screen sample).2, s.calls ++ onward.stages⟩)
  | .endOfStream => (.underWay, ⟨s.renderer.markEnd, s.calls ++ [.drain]⟩)
  | .go i schedule =>
    match s.calls[i]? with
    | none => (.nothing, s)
    | some stage =>
      let onward := stage.go s.renderer schedule
      (onward.1.reply, ⟨onward.2, s.calls.take i ++ onward.1.stages ++ s.calls.drop (i + 1)⟩)

/-- The deeds take place one after the other. -/
def performAll (deeds : List Deed) (s : Traffic) : Traffic :=
  deeds.foldl (fun s deed => (s.perform deed).2) s

@[simp] theorem performAll_nil (s : Traffic) : performAll [] s = s := rfl

@[simp] theorem performAll_cons (deed : Deed) (deeds : List Deed) (s : Traffic) :
    performAll (deed :: deeds) s = performAll deeds (s.perform deed).2 := rfl

theorem performAll_append (deeds deeds' : List Deed) (s : Traffic) :
    performAll (deeds ++ deeds') s = performAll deeds' (performAll deeds s) :=
  List.foldl_append

/-! ### Deeds and operations -/

/-- The operation that a deed amounts to, if it does anything to the renderer. -/
def operation (deed : Deed) (s : Traffic) : Option Operation :=
  match deed with
  | .operate op _ => some op
  | .receive sample => some (.screen sample)
  | .endOfStream => some .markEnd
  | .go i schedule => s.calls[i]?.bind (·.operation s.renderer schedule)

/-- The renderer is left as the operation leaves it. -/
theorem renderer_perform (deed : Deed) (s : Traffic) :
    (s.perform deed).2.renderer
      = ((s.operation deed).map (·.apply s.renderer)).getD s.renderer := by
  cases deed with
  | operate op | receive sample | endOfStream => rfl
  | go i schedule =>
    simp only [perform, operation]
    cases under : s.calls[i]? with
    | none => rfl
    | some stage => exact stage.renderer_go s.renderer schedule

/-! ### The turns of a call -/

end Traffic

/-- The stage of a call that has made this progress, if it has not returned. -/
def Progress.stages : Progress → List Stage
  | returned _ => []
  | waiting (.receive left) => [.wake left]
  | waiting .endOfStream => [.drain]

namespace Traffic

variable {r r' : Renderer}

/-- The call that began last goes on. -/
theorem perform_go_last (r : Renderer) (calls : List Stage) (stage : Stage) (schedule : Schedule) :
    (perform (.go calls.length schedule) ⟨r, calls ++ [stage]⟩).2
      = ⟨(stage.go r schedule).2, calls ++ (stage.go r schedule).1.stages⟩ := by
  simp [perform]

/-- Feeding pass after pass is a row of deeds. -/
theorem exists_deeds_feedTurn (r : Renderer) (left : Feed) (schedule : Schedule)
    (calls : List Stage) :
    ∃ deeds, performAll (.go calls.length schedule :: deeds) ⟨r, calls ++ [.feed left]⟩
      = ⟨(r.feedTurn left schedule).2.1, calls ++ (r.feedTurn left schedule).1.stages⟩ := by
  -- The recursion follows the passes, each of which is a deed.
  fun_induction Renderer.feedTurn r left schedule with
  | case1 r left schedule r' rest h | case2 r left schedule e r' rest h
  | case3 r left schedule left' r' rest h =>
    refine ⟨[], ?_⟩
    rw [performAll_cons, perform_go_last, Stage.go, h]
    rfl
  | case4 r left schedule left' r' rest h _ ih =>
    obtain ⟨deeds, reached⟩ := ih
    refine ⟨.go calls.length rest :: deeds, ?_⟩
    rw [performAll_cons, perform_go_last, Stage.go, h]
    exact reached

/-- The first turn of a call that hands over a sample. -/
theorem exists_deeds_receive (r : Renderer) (sample : MediaSample) (schedule : Schedule)
    (calls : List Stage) :
    ∃ deeds, performAll (.receive sample :: deeds) ⟨r, calls⟩
      = ⟨(r.receive sample schedule).2.1, calls ++ (r.receive sample schedule).1.stages⟩ := by
  simp only [performAll_cons, perform, Renderer.receive]
  rcases screened : r.screen sample with ⟨e | receipt | left, r'⟩
  · exact ⟨[], rfl⟩
  · exact ⟨[], rfl⟩
  · obtain ⟨deeds, reached⟩ := exists_deeds_feedTurn r' left schedule calls
    exact ⟨_, reached⟩

/-- A look whether the stream is drained, and what follows at once if it is. -/
theorem exists_deeds_drainTurn (r : Renderer) (schedule : Schedule) (calls : List Stage) :
    ∃ deeds, performAll deeds ⟨r, calls ++ [.drain]⟩
      = ⟨(r.drainTurn schedule).2.1, calls ++ (r.drainTurn schedule).1.stages⟩ := by
  let next : Deed := .go calls.length schedule
  have looked : performAll [next] ⟨r, calls ++ [.drain]⟩
      = ⟨(r.drainPass schedule).2.1, calls ++ (Onward.ofDrain (r.drainPass schedule).1).stages⟩ :=
    perform_go_last r calls .drain schedule
  have finished (r' : Renderer) (drained : Bool) :
      performAll [next] ⟨r', calls ++ [.finish drained]⟩ = ⟨(r'.finishEnd drained).2, calls⟩ := by
    refine (perform_go_last r' calls (.finish drained) schedule).trans ?_
    rcases silenced : r'.finishEnd drained with ⟨_ | _, r''⟩ <;>
      simp [Stage.go, silenced, Onward.ofFinish, Onward.stages]
  simp only [Renderer.drainTurn]
  rcases passed : r.drainPass schedule with ⟨_ | _ | e | _, r', rest⟩ <;> rw [passed] at looked
  · refine ⟨[next] ++ [next], ?_⟩
    rw [performAll_append, looked]
    refine (finished r' true).trans ?_
    dsimp only
    split <;> (next silenced => simp [silenced, Progress.stages])
  · refine ⟨[next] ++ [next], ?_⟩
    rw [performAll_append, looked]
    refine (finished r' false).trans ?_
    dsimp only
    split <;> (next silenced => simp [silenced, Progress.stages])
  · exact ⟨_, looked⟩
  · exact ⟨_, looked⟩

/-- The first turn of a call that announces the end of the stream. -/
theorem exists_deeds_endOfStream (r : Renderer) (schedule : Schedule) (calls : List Stage) :
    ∃ deeds, performAll (.endOfStream :: deeds) ⟨r, calls⟩
      = ⟨(r.endOfStream schedule).2.1, calls ++ (r.endOfStream schedule).1.stages⟩ :=
  exists_deeds_drainTurn r.markEnd schedule calls

/-- The turn of a call after a wait. -/
theorem exists_deeds_resume (r : Renderer) (call : Call) (schedule : Schedule)
    (calls : List Stage) :
    ∃ deeds, performAll deeds ⟨r, calls ++ (Progress.waiting call).stages⟩
      = ⟨(r.resume call schedule).2.1, calls ++ (r.resume call schedule).1.stages⟩ := by
  cases call with
  | endOfStream => exact exists_deeds_drainTurn r schedule calls
  | receive left =>
    simp only [Renderer.resume]
    cases woken : r.feedWake with
    | some result =>
      refine ⟨[.go calls.length schedule], ?_⟩
      refine (perform_go_last r calls (.wake left) schedule).trans ?_
      rw [Stage.go, woken]
      rcases result with e | _ <;> rfl
    | none =>
      -- The call feeds on like one that has not waited.
      obtain ⟨deeds, reached⟩ := exists_deeds_feedTurn r left schedule calls
      refine ⟨.go calls.length schedule :: deeds, Eq.trans ?_ reached⟩
      have same : Stage.go (.wake left) r schedule = Stage.go (.feed left) r schedule := by
        simp [Stage.go, woken]
      rw [performAll_cons, performAll_cons, perform_go_last, ← same]
      exact congrArg (performAll deeds) (perform_go_last r calls (.wake left) schedule)

end Traffic

end Playout
