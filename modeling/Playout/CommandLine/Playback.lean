import Playout.CommandLine.Complaint
import Playout.CommandLine.Options
import Playout.Renderer.Call
import Playout.Source.Stream

/-!
# Rendering a source from the command line

The source is rendered on a virtual device whose cursors move with time. Time passes only while a
call waits, by the wait interval each time; whatever is printed is printed at some time.

## Design points

* **A run is a value.** What was printed and when is data, and so is the end of the run; who runs
  the program for somebody to watch paces the printing.
* **Patience is finite.** A call that still waits long after everything queued must have been
  heard waits for ever.
-/

namespace Playout.CommandLine

/-- Something printed. -/
structure Printed where
  /-- Nanoseconds since the beginning. -/
  time : Nat
  text : String
  deriving DecidableEq, Repr

/-- Why a run does not reach its end. -/
inductive Halt
  | failed (c : Complaint)
  /-- A call waits for ever. -/
  | endless
  deriving DecidableEq, Repr

/-- A run in progress. -/
structure Playback where
  renderer : Renderer
  time : Nat := 0
  /-- What was printed, the latest first. -/
  printed : List Printed := []
  deriving DecidableEq, Repr

/-- A part of a run. -/
abbrev Run := ExceptT Halt (StateM Playback)

namespace Run

/-- Time between the beginning of a stream and its first sample. -/
def startLatency : Ticks := (50 * ticksPerMillisecond : Nat)

def print (text : String) : Run Unit :=
  modify fun p => { p with printed := ⟨p.time, text⟩ :: p.printed }

def fail (e : RenderError) : Run α := throw (.failed (.ofRender e))

/-- Does something with the renderer at once. -/
def act (f : Renderer → Renderer) : Run Unit :=
  modify fun p => { p with renderer := f p.renderer }

/-- Does something with the renderer that may fail. -/
def attempt (f : Renderer → Except RenderError Unit × Renderer) : Run Unit := do
  let p ← get
  let (answer, renderer) := f p.renderer
  set { p with renderer }
  match answer with
  | .ok () => pure ()
  | .error e => fail e

/-- Time passes. -/
def wait (interval : Nat) : Run Unit :=
  modify fun p =>
    { p with renderer := p.renderer.disturb (.elapse interval), time := p.time + interval }

/-- Lets a call go on until it returns, at most for `patience` waits. Each of its turns looks at
the hardware at most `looks` times. -/
def complete (interval looks : Nat) :
    (patience : Nat) → Progress → Run (Except RenderError Outcome)
  | _, .returned result => pure result
  | 0, .waiting _ => throw .endless
  | patience + 1, .waiting call => do
    wait interval
    let p ← get
    let (progress, renderer, _) := p.renderer.resume call (List.replicate looks [])
    set { p with renderer }
    complete interval looks patience progress

/-- The waits after which all that is queued has been heard, and a sample that stops at `stop`
has been due. -/
def patienceFor (c : RendererConfig) (data : Duration) (stop : Ticks) : Nat :=
  let needed := 2 * c.bufferDuration.nanoseconds + data.nanoseconds
    + 2 * (Duration.ofTicks stop).nanoseconds
  needed / c.waitInterval.nanoseconds + 100

/-- Hands a sample over and waits until it is taken. -/
def receive (chunk : PcmChunk) : Run (Except RenderError Outcome) := do
  let p ← get
  let looks := chunk.data.length + 2
  let sample : MediaSample :=
    { data := chunk.data, start := some chunk.start, stop := some chunk.stop }
  let (progress, renderer, _) := p.renderer.receive sample (List.replicate looks [])
  set { p with renderer }
  let length := Duration.ofTicks (p.renderer.format.elim 0 (·.ticksOfBytes chunk.data.length))
  let config := p.renderer.config
  complete config.waitInterval.nanoseconds looks (patienceFor config length chunk.stop) progress

/-- Announces the end of the stream and waits until all of it was heard. -/
def endOfStream : Run Unit := do
  let p ← get
  let (progress, renderer, _) := p.renderer.endOfStream [[]]
  set { p with renderer }
  let config := p.renderer.config
  match ← complete config.waitInterval.nanoseconds 1 (patienceFor config ⟨0⟩ 0) progress with
  | .ok _ => pure ()
  | .error e => fail e

/-- Renders all chunks of a source, and tells whether the stream was still open at the end. -/
def renderAll (source : Source) : Run Bool := do
  match h : source.next? with
  | .error e => throw (.failed (.ofSource e))
  | .ok none => pure true
  | .ok (some (chunk, rest)) =>
    have := Source.left_of_next? h
    match ← receive chunk with
    | .ok (.receipt .declined) => pure true
    | .error .wrongState => pure false
    | .error e => fail e
    | .ok _ =>
      let seconds := Float.ofInt chunk.stop / Float.ofNat ticksPerSecond
      print ("\r" ++ Decimal.rightAligned 8 (Decimal.fixed 2 seconds) ++ "s")
      renderAll rest
termination_by source.left

/-- Prints the counters, and what the device has played. -/
def report (format : WaveFormat) : Run Unit := do
  let r := (← get).renderer
  let consumed := (r.currentBuffer.map (·.consumedBytes)).getD 0
  print ("\n" ++ r.report.text ++ "\n")
  let seconds := Float.ofNat consumed / Float.ofNat format.byteRate
  print ("Device consumed: " ++ toString consumed ++ " bytes (" ++ Decimal.fixed 2 seconds
    ++ "s)\n")

/-- Renders a source to its end. -/
def render (source : Source) (settings : Settings) : Run Unit := do
  act Renderer.listen
  attempt (·.setVolume settings.volume)
  attempt (·.setPan settings.pan)
  if !settings.noClock then act Renderer.useReferenceClock
  let format := source.format
  attempt (·.connect format)
  print ("Output: " ++ format.text ++ " on " ++ (← get).renderer.device.name ++ "\n")
  attempt Renderer.pause
  attempt fun r => r.start (r.referenceClock.now + startLatency)
  print "Rendering. Press Ctrl+C to stop.\n\n"
  if ← renderAll source then endOfStream
  let (events, renderer) := (← get).renderer.takeEvents
  set { ← get with renderer := renderer.stop }
  print (if events.contains .complete then "\n\nPlayback complete.\n"
    else "\n\nPlayback interrupted.\n")
  report format

end Run

namespace Settings

def config (s : Settings) : RendererConfig :=
  { maxFill := .ofMilliseconds s.maxFillMs
    maxLag := .ofMilliseconds s.maxLagMs
    bufferDuration := .ofMilliseconds s.bufferMs }

def device (s : Settings) : VirtualDevice := { config := { lockMemory := s.lockMemory } }

end Settings

end Playout.CommandLine
