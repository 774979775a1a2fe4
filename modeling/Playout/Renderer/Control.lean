import Playout.Renderer.Basic

/-!
# Controlling a renderer

The operations that return at once: connecting a format, moving between the states, flushing,
volume and balance, the clock and the listener. Each gives its answer and the renderer it leaves;
a failed one may have done part of its work.
-/

namespace Playout

def volumeRange : Int × Int := (-10000, 0)

def panRange : Int × Int := (-10000, 10000)

/-- The number of a range nearest to `x`. -/
def clampTo (range : Int × Int) (x : Int) : Int := max range.1 (min range.2 x)

theorem clampTo_mem {range : Int × Int} (h : range.1 ≤ range.2) (x : Int) :
    range.1 ≤ clampTo range x ∧ clampTo range x ≤ range.2 := by
  unfold clampTo; omega

namespace Renderer

/-! ### Connecting -/

/-- Creates a buffer for a format and connects it, at the volume and balance set before; a level
that the buffer refuses stays what it is there. The outside can make it refuse either: it has the
device as well, and may act between any two calls. -/
def connect (r : Renderer) (format : WaveFormat) : Except RenderError Unit × Renderer :=
  match format.validate with
  | .error e => (.error (.typeRejected (.invalid e)), r)
  | .ok () =>
    if r.state ≠ .stopped then (.error .wrongState, r)
    else if r.connected then (.error .alreadyConnected, r)
    else
      let size := r.config.bufferBytes format
      match r.device.create size format with
      | (.error e, device) => (.error (.ofCreate e), { r with device })
      | (.ok buffer, device) =>
        let (_, buffer) := (buffer.armLevel r.device.refuses.volume).setVolume r.volume
        let (_, buffer) := (buffer.armLevel r.device.refuses.pan).setPan r.pan
        let ring : RingBuffer := { buffer, size, silence := format.silence }
        (.ok (), { r with device, connection := some { format, tracker := { ring } } })

/-- Gives the buffer back. -/
def disconnect (r : Renderer) : Except RenderError Unit × Renderer :=
  if r.state ≠ .stopped then (.error .wrongState, r)
  else if !r.connected then (.error .notConnected, r)
  else (.ok (), r.releaseBuffer)

/-! ### States -/

/-- Holds the stream. From the stopped state the change settles with the first sample. -/
def pause (r : Renderer) : Except RenderError Unit × Renderer :=
  match r.state with
  | .paused => (.ok (), r)
  | .stopped => (.ok (), { r.beginStream with state := .paused })
  | .running => (.ok (), { r.stopHardware with state := .paused })

/-- Lets the stream run, with stream time zero at `origin` on the clock. A stream that has ended,
or that has no buffer, completes at once. -/
def start (r : Renderer) (origin : Ticks) : Except RenderError Unit × Renderer :=
  if r.state = .running then (.ok (), r)
  else
    let r := if r.state = .stopped then r.beginStream else r
    let r := { r with streamStart := origin, settled := true }
    match r.onTransport (·.play true) with
    | (.error e, r) => (.error (.hardware e), r)
    | (.ok (), r) =>
      let r := { r with state := .running }
      (.ok (), if r.ended || !r.connected then r.notify .complete else r)

/-- Ends the stream and wakes whoever waits. -/
def stop (r : Renderer) : Renderer :=
  let previous := r.state
  let r := if previous = .running then r.stopHardware else r
  let r := { r with state := .stopped }
  if previous = .stopped then r else r.endStream

/-! ### Flushing -/

/-- From here on samples are declined and a blocked writer returns. -/
def beginFlush (r : Renderer) : Renderer := { r with flushing := true, interrupt := true }

/-- Takes samples again, on a silent ring. The stream is open again even if the ring could not be
silenced. -/
def endFlush (r : Renderer) : Except RenderError Unit × Renderer :=
  let r := { r with flushing := false, ended := false, mediaTime := none, interrupt := false }
  match r.tracker with
  | none => (.ok (), r)
  | some t =>
    match t.clear with
    | (.ok (), t) => (.ok (), r.setTracker t)
    | (.error e, t) => (.error (.hardware e), r.setTracker t)

/-! ### Levels -/

/-- Sets the volume, moved into its range; kept if the buffer takes it. -/
def setVolume (r : Renderer) (volume : Int) : Except RenderError Unit × Renderer :=
  let volume := clampTo volumeRange volume
  match r.onTransport (·.setVolume volume) with
  | (.ok (), r) => (.ok (), { r with volume })
  | (.error e, r) => (.error (.hardware e), r)

/-- Sets the balance, moved into its range; kept if the buffer takes it. -/
def setPan (r : Renderer) (pan : Int) : Except RenderError Unit × Renderer :=
  let pan := clampTo panRange pan
  match r.onTransport (·.setPan pan) with
  | (.ok (), r) => (.ok (), { r with pan })
  | (.error e, r) => (.error (.hardware e), r)

/-! ### Clock and listener -/

/-- Links a new manual clock that shows `now`; the one before is let go. -/
def setManualClock (r : Renderer) (now : Ticks) : Renderer :=
  { r with clock := .manual, manualClock := some ⟨now⟩ }

/-- Sets the manual clock, if someone holds one. -/
def turnClock (r : Renderer) (now : Ticks) : Renderer :=
  { r with manualClock := r.manualClock.map (·.set now) }

/-- Moves the manual clock on and gives its new time. -/
def advanceClock (r : Renderer) (ticks : Ticks) : Option Ticks × Renderer :=
  let clock := r.manualClock.map (·.advance ticks)
  (clock.map (·.now), { r with manualClock := clock })

/-- Nobody holds the manual clock any more. -/
def dropClock (r : Renderer) : Renderer := { r with manualClock := none }

def clearClock (r : Renderer) : Renderer := { r with clock := .detached }

def useReferenceClock (r : Renderer) : Renderer := { r with clock := .reference }

/-- Attaches a new listener. -/
def listen (r : Renderer) : Renderer := { r with inbox := some [] }

/-- The listener goes away. -/
def deafen (r : Renderer) : Renderer := { r with inbox := none }

/-- The listener reads what it has received. -/
def takeEvents (r : Renderer) : List RenderEvent × Renderer :=
  (r.inbox.getD [], { r with inbox := r.inbox.map fun _ => [] })

/-- The state, and whether the last change of it has taken effect. -/
def awaitState (r : Renderer) : Bool × StreamState := (r.settled, r.state)

/-- The last handle on the renderer goes away: the hardware is asked to stop and the buffer is
given back. -/
def close (r : Renderer) : Renderer :=
  let (_, r) := r.onTransport SoundBuffer.stop
  r.releaseBuffer

end Renderer

end Playout
