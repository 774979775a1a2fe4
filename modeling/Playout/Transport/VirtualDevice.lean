import Playout.Text.Record
import Playout.Transport.SoundBuffer

/-!
# The virtual device

The device creates buffers; who asked for one owns it until it is released. The device's owner
can still watch and drive the newest buffer, which is what `BufferPool` is for when several are
open at once.
-/

namespace Playout

/-- A sound card without hardware. -/
structure VirtualDevice where
  config : DeviceConfig := {}
  /-- Whether it refuses to create buffers. -/
  failCreate : Bool := false
  /-- How many buffers it has created. -/
  created : Nat := 0
  /-- Failures armed on the line while no buffer was open; they wait for the next one. -/
  armed : ArmedLine := {}
  /-- The levels that the next buffer will refuse while it is being connected. -/
  refuses : Levels := {}
  /-- The size, in bytes, from which on the machine finds no memory for a buffer. -/
  memory : Nat := 0x1000000000
  deriving DecidableEq, Repr

namespace CursorMode

def text : CursorMode → String
  | manual => "Manual"
  | realtime => "Realtime"

end CursorMode

/-- All settings, written out. -/
def DeviceConfig.describe (c : DeviceConfig) : String :=
  Text.record "VirtualDeviceConfig"
    [("mode", c.mode.text), ("write_lead", c.writeLead.text),
      ("lock_memory", Text.truth c.lockMemory)]

namespace VirtualDevice

def name (d : VirtualDevice) : String :=
  match d.config.mode with
  | .manual => "virtual (manual)"
  | .realtime => "virtual"

/-- A silent buffer of `size` bytes for a format, which takes over the failures on the line. -/
def fresh (d : VirtualDevice) (size : Nat) (format : WaveFormat) : SoundBuffer where
  config := d.config
  bytes := List.replicate size format.silence
  blockAlign := format.blockAlign
  frequency := format.sampleRate
  armed := { toArmedLine := d.armed }

/-- Creates a buffer. No machine finds memory for more bytes than a signed word counts. -/
def create (d : VirtualDevice) (size : Nat) (format : WaveFormat) :
    Except TransportError SoundBuffer × VirtualDevice :=
  if d.failCreate then (.error (.createFailed .injected), d)
  else if size = 0 then (.error (.createFailed .empty), d)
  else if d.memory ≤ size ∨ 0x8000000000000000 ≤ size then (.error (.outOfMemory size), d)
  else
    (.ok (d.fresh size format), { d with created := d.created + 1, armed := {}, refuses := {} })

/-- A created buffer is fresh, and has a size that the machine could give. -/
theorem create_eq_ok {d d' : VirtualDevice} {size : Nat} {format : WaveFormat} {b : SoundBuffer}
    (h : d.create size format = (.ok b, d')) :
    (0 < size ∧ size < d.memory ∧ size < 0x8000000000000000)
      ∧ b = d.fresh size format
      ∧ d' = { d with created := d.created + 1, armed := {}, refuses := {} } := by
  unfold create at h
  split at h
  · cases h
  split at h
  · cases h
  split at h
  · cases h
  cases h
  exact ⟨by omega, rfl, rfl⟩

/-- A device that creates no buffer stays as it is. -/
theorem create_eq_error {d d' : VirtualDevice} {size : Nat} {format : WaveFormat}
    {e : TransportError} (h : d.create size format = (.error e, d')) : d' = d := by
  unfold create at h
  split at h
  · cases h; rfl
  split at h
  · cases h; rfl
  split at h
  · cases h; rfl
  · cases h

end VirtualDevice

/-! ### Several buffers -/

/-- A buffer of the pool, and whether its user still holds it. -/
structure PooledBuffer where
  buffer : SoundBuffer
  held : Bool := true
  deriving DecidableEq, Repr

/-- A device with every buffer it has created, oldest first. -/
structure BufferPool where
  device : VirtualDevice
  buffers : List PooledBuffer := []
  deriving DecidableEq, Repr

namespace BufferPool

/-- The buffer that the device's owner watches: the newest, held or not. -/
def newest (p : BufferPool) : Option SoundBuffer := p.buffers.getLast?.map (·.buffer)

/-- Creates a buffer and gives its index. -/
def create (p : BufferPool) (size : Nat) (format : WaveFormat) :
    Except TransportError Nat × BufferPool :=
  match p.device.create size format with
  | (.ok buffer, device) => (.ok p.buffers.length, ⟨device, p.buffers ++ [⟨buffer, true⟩]⟩)
  | (.error e, device) => (.error e, { p with device })

/-- Buffer `i`, if its user holds it. -/
def held? (p : BufferPool) (i : Nat) : Option SoundBuffer :=
  match p.buffers[i]? with
  | some ⟨buffer, true⟩ => some buffer
  | _ => none

/-- The pool once buffer `i` has become `buffer`. -/
def update (p : BufferPool) (i : Nat) (buffer : SoundBuffer) : BufferPool :=
  { p with buffers := p.buffers.modify i ({ · with buffer }) }

/-- The pool once its newest buffer was changed from outside. -/
def onNewest (p : BufferPool) (f : SoundBuffer → SoundBuffer) : BufferPool :=
  { p with
    buffers := p.buffers.modify (p.buffers.length - 1)
      fun pooled => { pooled with buffer := f pooled.buffer } }

/-- Gives buffer `i` back: it stops, and cannot be used any more. -/
def release (p : BufferPool) (i : Nat) : BufferPool :=
  { p with buffers := p.buffers.modify i fun pooled => ⟨pooled.buffer.halt, false⟩ }

end BufferPool

end Playout
