import Playout.Renderer.Feed

/-!
# The end of a stream

Announcing the end takes three steps, each of which holds the renderer on its own: the mark, after
which samples are declined; passes that wait until the hardware has reached the last byte; and the
silencing of the ring. A stream that was running until then is complete.
-/

namespace Playout

/-- How a pass over a draining ring ends. -/
inductive DrainEnd
  /-- The hardware reached the last byte. -/
  | drained
  /-- The stream is not running, or is being flushed. -/
  | interrupted
  | failed (e : RenderError)
  /-- The call waits. -/
  | wait
  deriving DecidableEq, Repr

namespace Renderer

/-- Announces the end of the stream. -/
def markEnd (r : Renderer) : Renderer := { r with ended := true, settled := true }

/-- One pass that looks whether the hardware has reached the last byte. -/
def drainPass (r : Renderer) (schedule : Schedule) : DrainEnd × Renderer × Schedule :=
  if r.state ≠ .running ∨ r.flushing ∨ !r.connected then (.interrupted, r, schedule)
  else
    match r.look schedule fun c => c.tracker.updateDraining with
    | (.error e, r, schedule) => (.failed e, r, schedule)
    | (.ok positions, r, schedule) =>
      let r := r.recordPositions positions
      (if positions.sequential = positions.minimum then .drained else .wait, r, schedule)

/-- Silences the ring and, if the stream ran until its last byte was played, reports that. -/
def finishEnd (r : Renderer) (drained : Bool) : Except RenderError Unit × Renderer :=
  let complete (r : Renderer) : Except RenderError Unit × Renderer :=
    (.ok (), if drained then r.notify .complete else r)
  match r.tracker with
  | none => complete r
  | some t =>
    match t.ring.clear with
    | (.error e, ring) => (.error (.hardware e), r.setTracker { t with ring })
    | (.ok (), ring) =>
      let r := r.setTracker { t with ring }
      complete { r with stats := r.stats.addZeroed t.size }

end Renderer

end Playout
