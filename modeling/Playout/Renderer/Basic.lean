import Playout.Clock
import Playout.Planner
import Playout.Stats
import Playout.Transport.VirtualDevice

/-!
# The state of a renderer

A renderer brings samples with presentation times onto the ring of a sound buffer. It is in one of
three states; producers hand it samples, a controller moves it between the states, and hardware
plays what is on the ring.

## Design points

* **One value holds everything that a later answer depends on,** also what the renderer shares
  with the outside: the listener's inbox, the manual clock, the buffer that it gave back last.
* **A connection is a format and a tracker together.** There is never one without the other.
* **Signals are their level.** `settled` says that the last change of state has taken effect;
  `interrupt` wakes a blocked call.
* **The clock is not kept alive.** A renderer linked to a manual clock that nobody holds any more
  has no time.
-/

namespace Playout

inductive StreamState
  /-- Samples are refused and the hardware stands. -/
  | stopped
  /-- Samples are taken, but wait. -/
  | paused
  /-- The hardware plays. -/
  | running
  deriving DecidableEq, Repr

def StreamState.text : StreamState → String
  | stopped => "stopped"
  | paused => "paused"
  | running => "running"

/-- Why a format is not taken for the stream. -/
inductive Rejection
  | invalid (e : FormatError)
  /-- The formats differ in more than their rates. -/
  | incompatible (current new : WaveFormat)
  /-- The device does not play at the new rate. -/
  | frequency (e : TransportError)
  deriving DecidableEq, Repr

def Rejection.message : Rejection → String
  | invalid e => e.message
  | incompatible current new => "cannot switch from " ++ current.text ++ " to " ++ new.text
  | frequency e => e.message

/-- Why an operation failed. -/
inductive RenderError
  | wrongState
  | typeRejected (reason : Rejection)
  | hardware (e : TransportError)
  | outOfMemory
  | notConnected
  | alreadyConnected
  | invalidConfig (e : ConfigError)
  | fault (f : Fault)
  deriving DecidableEq, Repr

namespace RenderError

def message : RenderError → String
  | wrongState => "operation not valid in the current stream state"
  | typeRejected reason => "media type rejected: " ++ reason.message
  | hardware e => "hardware failure: " ++ e.message
  | outOfMemory => "out of memory"
  | notConnected => "no format connected"
  | alreadyConnected => "already connected"
  | invalidConfig e => "invalid configuration: " ++ e.message
  | fault f => f.message

/-- The error of a connection whose buffer was not created. -/
def ofCreate : TransportError → RenderError
  | .outOfMemory _ => outOfMemory
  | e => hardware e

def ofFailure : Failure → RenderError
  | .transport e => hardware e
  | .fault f => fault f

end RenderError

/-- What a renderer tells its listener. -/
inductive RenderEvent
  /-- All bytes of the stream were played. -/
  | complete
  | formatChanged (oldRate newRate : Nat)
  | formatRejected (reason : Rejection)
  deriving DecidableEq, Repr

/-- A piece of the stream. -/
structure MediaSample where
  data : List UInt8
  /-- Presentation times, as stream time. -/
  start : Option Ticks := none
  stop : Option Ticks := none
  /-- Whether the sample only positions the stream and is not heard. -/
  preroll : Bool := false
  /-- The format of this sample and those after it, if it changes here. -/
  format : Option WaveFormat := none
  deriving DecidableEq, Repr

/-- What became of a sample. -/
inductive Receipt
  | rendered
  | preroll
  /-- The stream has ended or is being flushed. -/
  | declined
  deriving DecidableEq, Repr

/-- The clock that gives the renderer its time. -/
inductive ClockLink
  | detached
  /-- The manual clock, as long as someone holds it. -/
  | manual
  /-- The renderer's own clock. -/
  | reference
  deriving DecidableEq, Repr

/-- A buffer of the device in use for a format. -/
structure Connection where
  format : WaveFormat
  tracker : PositionTracker
  deriving DecidableEq, Repr

structure Renderer where
  config : RendererConfig
  device : VirtualDevice
  state : StreamState := .stopped
  connection : Option Connection := none
  /-- Clock time at which stream time is zero. -/
  streamStart : Ticks := 0
  /-- Whether the end of the stream was announced. -/
  ended : Bool := false
  flushing : Bool := false
  volume : Int := 0
  pan : Int := 0
  /-- Presentation time of the last sample taken with a clock. -/
  mediaTime : Option Ticks := none
  clock : ClockLink := .detached
  /-- The manual clock, as long as someone holds it. -/
  manualClock : Option ManualClock := none
  /-- The renderer's own clock. -/
  referenceClock : SystemClock := {}
  settled : Bool := true
  interrupt : Bool := true
  stats : RenderStats := {}
  /-- What the listener has received and not read yet, if there is a listener. -/
  inbox : Option (List RenderEvent) := none
  /-- The buffer of the last connection, once it was given back. -/
  released : Option SoundBuffer := none
  deriving DecidableEq, Repr

namespace Renderer

/-- A new renderer on a device, if the settings fit together. -/
def create (device : VirtualDevice) (config : RendererConfig) : Except RenderError Renderer :=
  match config.validate with
  | .ok () => .ok { config, device }
  | .error e => .error (.invalidConfig e)

/-! ### Reading the state -/

def planner (r : Renderer) : WritePlanner := .ofConfig r.config

def tracker (r : Renderer) : Option PositionTracker := r.connection.map (·.tracker)

def format (r : Renderer) : Option WaveFormat := r.connection.map (·.format)

def connected (r : Renderer) : Bool := r.connection.isSome

/-- The newest buffer of the device, in use or given back. -/
def currentBuffer (r : Renderer) : Option SoundBuffer :=
  match r.connection with
  | some c => some c.tracker.ring.buffer
  | none => r.released

/-- The time on the linked clock. -/
def clockTime (r : Renderer) : Option Ticks :=
  match r.clock with
  | .detached => none
  | .manual => r.manualClock.map (·.now)
  | .reference => some r.referenceClock.now

/-- Stream time: the time since the start of the stream, where a word holds it. -/
def streamTime (r : Renderer) : Except Fault (Option Ticks) :=
  match r.clockTime with
  | none => .ok none
  | some now => (Ticks.difference? now r.streamStart).map some

/-- The counters with the byte rate of the current format. -/
def report (r : Renderer) : StatsReport :=
  r.stats.report ((r.format.map (·.byteRate)).getD 0)

/-! ### Changing one thing -/

/-- Sends an event to the listener, if there is one. -/
def notify (r : Renderer) (event : RenderEvent) : Renderer :=
  { r with inbox := r.inbox.map (· ++ [event]) }

def setTracker (r : Renderer) (t : PositionTracker) : Renderer :=
  { r with connection := r.connection.map ({ · with tracker := t }) }

/-- The renderer once its connected buffer has become `b`. -/
def setBuffer (r : Renderer) (b : SoundBuffer) : Renderer :=
  { r with
    connection := r.connection.map fun c =>
      { c with tracker := { c.tracker with ring := { c.tracker.ring with buffer := b } } } }

/-- Asks something of the connected buffer; without one there is nothing to refuse. -/
def onTransport (r : Renderer)
    (ask : SoundBuffer → Except TransportError Unit × SoundBuffer) :
    Except TransportError Unit × Renderer :=
  match r.connection with
  | none => (.ok (), r)
  | some c =>
    let (answer, buffer) := ask c.tracker.ring.buffer
    (answer, r.setBuffer buffer)

/-- Gives the connected buffer back to the device: it stops playing. -/
def releaseBuffer (r : Renderer) : Renderer :=
  match r.connection with
  | none => r
  | some c =>
    let buffer := c.tracker.ring.buffer.halt
    { r with
      connection := none
      released := some { buffer with armed := {} }
      device := { r.device with armed := buffer.armed.toArmedLine } }

/-- Prepares a stream that leaves the stopped state. -/
def beginStream (r : Renderer) : Renderer :=
  { r with
    settled := if r.connected then false else r.settled
    ended := false
    interrupt := false }

/-- Stops the hardware and forgets where the next byte goes. A hardware that refuses to stop is
not waited for. -/
def stopHardware (r : Renderer) : Renderer :=
  let (_, r) := r.onTransport SoundBuffer.stop
  match r.tracker with
  | some t => r.setTracker t.reset
  | none => r

/-- Tidies up after a stream and wakes whoever waits. -/
def endStream (r : Renderer) : Renderer :=
  { r with mediaTime := none, settled := true, interrupt := true }

end Renderer

end Playout
