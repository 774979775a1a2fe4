import Playout.Renderer.Drain

/-!
# Calls that wait

`receive` and `endOfStream` may have to wait. A waiting call is a value, `Call`; it holds nothing
of the renderer, so that any control operation may run before it goes on. A `turn` takes a call
from the moment it holds the renderer to its return or to its next wait, and `resume` is the turn
after a wait.

`settle` lets a call go on alone. It ends when the call returns, or when the call waits for
something that only a control operation can bring about.
-/

namespace Playout

/-- A call that has not returned. -/
inductive Call
  | receive (feed : Feed)
  | endOfStream
  deriving DecidableEq, Repr

/-- What a call returns. -/
inductive Outcome
  | receipt (receipt : Receipt)
  | ended
  deriving DecidableEq, Repr

/-- How a turn ends. -/
inductive Progress
  | returned (result : Except RenderError Outcome)
  | waiting (call : Call)

namespace Renderer

/-- Feeds pass after pass, until the call returns or waits. -/
def feedTurn (r : Renderer) (feed : Feed) (schedule : Schedule) :
    Progress × Renderer × Schedule :=
  match h : r.feedPass feed schedule with
  | (.returned (.ok ()), r, rest) => (.returned (.ok (.receipt .rendered)), r, rest)
  | (.returned (.error e), r, rest) => (.returned (.error e), r, rest)
  | (.wait feed, r, rest) => (.waiting (.receive feed), r, rest)
  | (.proceed feed, r, rest) =>
    have := feedPass_shrinks h
    feedTurn r feed rest
termination_by schedule.length

/-- Looks once whether the stream is drained, and finishes it if no more is to be waited for. -/
def drainTurn (r : Renderer) (schedule : Schedule) : Progress × Renderer × Schedule :=
  let finish (r : Renderer) (drained : Bool) (schedule : Schedule) :
      Progress × Renderer × Schedule :=
    match r.finishEnd drained with
    | (.ok (), r) => (.returned (.ok .ended), r, schedule)
    | (.error e, r) => (.returned (.error e), r, schedule)
  match r.drainPass schedule with
  | (.drained, r, schedule) => finish r true schedule
  | (.interrupted, r, schedule) => finish r false schedule
  | (.failed e, r, schedule) => (.returned (.error e), r, schedule)
  | (.wait, r, schedule) => (.waiting .endOfStream, r, schedule)

/-- The first turn of a call that hands over a sample. -/
def receive (r : Renderer) (s : MediaSample) (schedule : Schedule) :
    Progress × Renderer × Schedule :=
  match r.screen s with
  | (.error e, r) => (.returned (.error e), r, schedule)
  | (.ok (.done receipt), r) => (.returned (.ok (.receipt receipt)), r, schedule)
  | (.ok (.feed feed), r) => r.feedTurn feed schedule

/-- The first turn of a call that announces the end of the stream. -/
def endOfStream (r : Renderer) (schedule : Schedule) : Progress × Renderer × Schedule :=
  r.markEnd.drainTurn schedule

/-- The turn of a call after a wait. -/
def resume (r : Renderer) (call : Call) (schedule : Schedule) :
    Progress × Renderer × Schedule :=
  match call with
  | .endOfStream => r.drainTurn schedule
  | .receive feed =>
    match r.feedWake with
    | some (.ok ()) => (.returned (.ok (.receipt .rendered)), r, schedule)
    | some (.error e) => (.returned (.error e), r, schedule)
    | none => r.feedTurn feed schedule

/-- Lets a call that has made some progress take up to `turns` more turns. -/
def resumeTurns (turns : Nat) (now : Progress × Renderer × Schedule) :
    Progress × Renderer × Schedule :=
  match turns, now with
  | turns + 1, (.waiting call, r, schedule) => resumeTurns turns (r.resume call schedule)
  | _, now => now

/-- Lets a call go on alone, turn by turn, as long as each of them looks at the hardware. -/
def settle (now : Progress × Renderer × Schedule) : Progress × Renderer × Schedule :=
  match now with
  | (.returned result, r, schedule) => (.returned result, r, schedule)
  | (.waiting call, r, schedule) =>
    let next := r.resume call schedule
    if next.2.2.length < schedule.length then settle next else next
termination_by now.2.2.length

end Renderer

end Playout
