import Playout.Renderer.Control

/-!
# What happens outside a renderer

Between two looks at the hardware, and while a call waits, the outside acts: cursors move, time
passes, a failure is armed, somebody else starts a flush or turns the clock. Each such act is a
`Disturbance`.
-/

namespace Playout

/-- Failures that are armed on the line to the buffer and wait for the next call of their kind,
also across connections. -/
inductive LineFault
  | cursor
  | play
  | stop
  | frequency
  deriving DecidableEq, Repr

def ArmedLine.set (a : ArmedLine) (fault : LineFault) (on : Bool) : ArmedLine :=
  match fault with
  | .cursor => { a with cursor := on }
  | .play => { a with play := on }
  | .stop => { a with stop := on }
  | .frequency => { a with frequency := on }

/-- An act of the outside. -/
inductive Disturbance
  /-- The cursors of the newest buffer are put somewhere. -/
  | setCursor (play write : Nat)
  /-- They move on. -/
  | advance (bytes : Nat)
  /-- Its bytes are overwritten. -/
  | fill (byte : UInt8)
  /-- Time passes. -/
  | elapse (nanoseconds : Nat)
  /-- The device refuses to create buffers, or no longer does. -/
  | failCreate (on : Bool)
  /-- The next lock of the newest buffer fails. -/
  | failLock
  /-- The next change of its volume or balance fails. -/
  | failLevel
  /-- The device's next buffer refuses these levels while it is being connected. -/
  | failNewLevels (levels : Levels)
  | fail (fault : LineFault) (on : Bool)
  | beginFlush
  /-- The manual clock is set. -/
  | turnClock (now : Ticks)
  deriving DecidableEq, Repr

namespace Disturbance

/-- What the act does to a buffer that it concerns. -/
def onBuffer (d : Disturbance) (b : SoundBuffer) : SoundBuffer :=
  match d with
  | .setCursor play write => b.setCursor play write
  | .advance bytes => b.advance bytes
  | .fill byte => b.fill byte
  | .elapse nanoseconds => b.elapse nanoseconds
  | .failLock => { b with armed := { b.armed with lock := true } }
  | .failLevel => { b with armed := { b.armed with level := true } }
  | .fail fault on =>
    { b with armed := { b.armed with toArmedLine := b.armed.toArmedLine.set fault on } }
  | .failCreate _ | .failNewLevels _ | .beginFlush | .turnClock _ => b

/-- What the act does to a device. -/
def onDevice (d : Disturbance) (device : VirtualDevice) : VirtualDevice :=
  match d with
  | .failCreate on => { device with failCreate := on }
  | .failNewLevels levels => { device with refuses := levels }
  | _ => device

end Disturbance

namespace Renderer

/-- The outside acts. A line fault waits at the device while no buffer is connected. -/
def disturb (r : Renderer) (d : Disturbance) : Renderer :=
  let r := { r with device := d.onDevice r.device }
  let r := match r.connection with
    | some c => r.setBuffer (d.onBuffer c.tracker.ring.buffer)
    | none => match d with
      | .fail fault on =>
        { r with device := { r.device with armed := r.device.armed.set fault on } }
      | d => { r with released := r.released.map d.onBuffer }
  match d with
  | .elapse nanoseconds =>
    { r with referenceClock := r.referenceClock.elapse nanoseconds }
  | .beginFlush => r.beginFlush
  | .turnClock now => r.turnClock now
  | _ => r

/-- The outside acts several times. -/
def disturbAll (r : Renderer) (acts : List Disturbance) : Renderer := acts.foldl disturb r

end Renderer

/-- A disturbance of a pool concerns its newest buffer; the line faults of a single connection do
not reach it. -/
def BufferPool.disturb (p : BufferPool) (d : Disturbance) : BufferPool :=
  let p := { p with device := d.onDevice p.device }
  match d with
  | .fail _ _ => p
  | d => p.onNewest d.onBuffer

end Playout
