import Playout.Ticks
import Playout.Ring.Segments
import Playout.Transport.Error
import Playout.WaveFormat.Basic

/-!
# Sound buffers

A sound buffer is memory that the hardware plays in a loop. The hardware only moves its cursors;
the bytes are written by software, through regions that `lock` grants.

## Design points

* **Two ways to move.** In the `manual` mode cursors stand where `setCursor` and `advance` put
  them. In the `realtime` mode a playing buffer's cursors follow from the time since it started
  (its `Anchor`), and time itself passes by `elapse`.
* **Failures are armed in advance.** A control call that finds its failure armed fails, once,
  and changes nothing else. `Armed` holds them all.
* **Operations return the buffer they leave,** also when they fail.
-/

namespace Playout

/-- Who moves the cursors. -/
inductive CursorMode
  /-- The caller. -/
  | manual
  /-- Time, while the buffer plays. -/
  | realtime
  deriving DecidableEq, Repr

/-- The settings of a virtual device. -/
structure DeviceConfig where
  mode : CursorMode := .realtime
  /-- How far the write cursor runs ahead of the play cursor in the `realtime` mode. -/
  writeLead : Duration := .ofMilliseconds 10
  /-- Whether buffers are pinned in memory. -/
  lockMemory : Bool := false
  deriving DecidableEq, Repr

/-- Where the hardware stands in a buffer. -/
structure Cursor where
  /-- The byte being played. -/
  play : Nat
  /-- The first byte not yet taken for playing. -/
  write : Nat
  deriving DecidableEq, Repr

/-- The failures on the line to a buffer that wait for their call. -/
structure ArmedLine where
  cursor : Bool := false
  play : Bool := false
  stop : Bool := false
  frequency : Bool := false
  deriving DecidableEq, Repr

/-- The failures that wait for their call, on the line to a buffer and in the buffer itself. -/
structure Armed extends ArmedLine where
  lock : Bool := false
  level : Bool := false
  deriving DecidableEq, Repr

/-- The levels of a buffer that a refusal concerns. -/
structure Levels where
  volume : Bool := false
  pan : Bool := false
  deriving DecidableEq, Repr

/-- The moment a `realtime` buffer started to play, and the bytes it had played before. -/
structure Anchor where
  startedAt : Nat
  base : Nat
  deriving DecidableEq, Repr

/-- A looping buffer of the virtual device. -/
structure SoundBuffer where
  config : DeviceConfig
  bytes : List UInt8
  /-- Bytes per frame of the format it was created for. -/
  blockAlign : Nat
  playAt : Nat := 0
  writeAt : Nat := 0
  playing : Bool := false
  looping : Bool := false
  /-- Frames per second. -/
  frequency : Nat
  volume : Int := 0
  pan : Int := 0
  /-- Bytes played up to the last stop, or up to the last `advance`. -/
  consumed : Nat := 0
  anchor : Option Anchor := none
  /-- Nanoseconds that have passed since the buffer was created. -/
  age : Nat := 0
  armed : Armed := {}
  deriving DecidableEq, Repr

/-- `bytes` with `data` in the place of what stood from `offset` on. -/
def overwrite (bytes : List UInt8) (offset : Nat) (data : List UInt8) : List UInt8 :=
  bytes.take offset ++ data ++ bytes.drop (offset + data.length)

theorem length_overwrite {bytes data : List UInt8} {offset : Nat}
    (h : offset + data.length ≤ bytes.length) :
    (overwrite bytes offset data).length = bytes.length := by
  simp only [overwrite, List.length_append, List.length_take, List.length_drop]
  omega

namespace SoundBuffer

/-- Bytes in the buffer. -/
def size (b : SoundBuffer) : Nat := b.bytes.length

/-! ### Time and position -/

def bytesPerSecond (b : SoundBuffer) : Nat := b.frequency * b.blockAlign

/-- `n` without its last, incomplete frame. -/
def wholeBlocks (b : SoundBuffer) (n : Nat) : Nat := n - n % max b.blockAlign 1

/-- Whole frames, in bytes, that play in a time. -/
def bytesIn (b : SoundBuffer) (nanoseconds : Nat) : Nat :=
  b.wholeBlocks (wrapUnsigned (nanoseconds * b.bytesPerSecond / 1000000000))

/-- Bytes played since creation by a buffer that plays since `anchor`. -/
def playedSince (b : SoundBuffer) (anchor : Anchor) : Nat :=
  anchor.base + b.bytesIn (b.age - anchor.startedAt)

/-- Bytes played since creation. -/
def consumedBytes (b : SoundBuffer) : Nat :=
  match b.anchor with
  | some anchor => b.playedSince anchor
  | none => b.consumed

/-- How many bytes the write cursor of a playing `realtime` buffer is ahead; never a whole lap. -/
def leadBytes (b : SoundBuffer) : Nat :=
  min (b.bytesIn b.config.writeLead.nanoseconds) (b.size - b.blockAlign)

/-- Where the cursors stand. -/
def position (b : SoundBuffer) : Cursor :=
  match b.config.mode with
  | .manual => ⟨b.playAt, b.writeAt⟩
  | .realtime =>
    match b.anchor with
    | some anchor =>
      let play := b.playedSince anchor % b.size
      ⟨play, (play + b.leadBytes) % b.size⟩
    | none => ⟨b.playAt, b.playAt⟩

/-- Time passes. -/
def elapse (b : SoundBuffer) (nanoseconds : Nat) : SoundBuffer :=
  { b with age := b.age + nanoseconds }

/-- Puts the cursors at two offsets. -/
def setCursor (b : SoundBuffer) (play write : Nat) : SoundBuffer :=
  { b with playAt := play % b.size, writeAt := write % b.size }

/-- Moves both cursors on by `n` bytes, which count as played. -/
def advance (b : SoundBuffer) (n : Nat) : SoundBuffer :=
  { b with
    playAt := (b.playAt + n) % b.size
    writeAt := (b.writeAt + n) % b.size
    consumed := wrapUnsigned (b.consumed + n) }

/-- Fills the whole buffer behind the software's back. -/
def fill (b : SoundBuffer) (byte : UInt8) : SoundBuffer :=
  { b with bytes := List.replicate b.size byte }

/-! ### Calls of the software -/

/-- Reads the cursors. -/
def cursor (b : SoundBuffer) : Except TransportError Cursor × SoundBuffer :=
  if b.armed.cursor then
    (.error .cursorFailed, { b with armed := { b.armed with cursor := false } })
  else (.ok b.position, b)

/-- Asks for the `len` bytes from `offset` on, going round. -/
def lock (b : SoundBuffer) (offset len : Nat) : Except TransportError Segments × SoundBuffer :=
  let disarmed := { b with armed := { b.armed with lock := false } }
  if b.armed.lock ∨ b.size ≤ offset then (.error (.lockFailed offset len), disarmed)
  else (.ok (split offset len b.size), disarmed)

/-- Writes `head` to the first and `tail` to the second stretch of a granted region. -/
def put (b : SoundBuffer) (region : Segments) (head tail : List UInt8) : SoundBuffer :=
  { b with bytes := overwrite (overwrite b.bytes region.start head) 0 tail }

/-- Starts to play; a buffer that plays already goes on. -/
def play (b : SoundBuffer) (looping : Bool) : Except TransportError Unit × SoundBuffer :=
  if b.armed.play then
    (.error (.controlFailed .play), { b with armed := { b.armed with play := false } })
  else if b.playing then (.ok (), { b with looping })
  else
    let anchor := if b.config.mode = .realtime then some ⟨b.age, b.consumed⟩ else b.anchor
    (.ok (), { b with looping, playing := true, anchor })

/-- The buffer once what it played since its anchor is counted. -/
def freeze (b : SoundBuffer) : SoundBuffer :=
  match b.anchor with
  | some anchor =>
    let total := b.playedSince anchor
    { b with consumed := total, playAt := total % b.size, anchor := none }
  | none => b

/-- Stops playing, whatever is armed. -/
def halt (b : SoundBuffer) : SoundBuffer :=
  if b.playing then { b with playing := false }.freeze else b

/-- Stops playing; the cursors stay. -/
def stop (b : SoundBuffer) : Except TransportError Unit × SoundBuffer :=
  if b.armed.stop then
    (.error (.controlFailed .stop), { b with armed := { b.armed with stop := false } })
  else (.ok (), b.halt)

/-- Sets the volume, in hundredths of a decibel. -/
def setVolume (b : SoundBuffer) (volume : Int) : Except TransportError Unit × SoundBuffer :=
  if b.armed.level then
    (.error (.controlFailed .level), { b with armed := { b.armed with level := false } })
  else (.ok (), { b with volume })

/-- Sets the balance between left and right. -/
def setPan (b : SoundBuffer) (pan : Int) : Except TransportError Unit × SoundBuffer :=
  if b.armed.level then
    (.error (.controlFailed .level), { b with armed := { b.armed with level := false } })
  else (.ok (), { b with pan })

/-- The next change of a level fails, if the outside wants that. -/
def armLevel (b : SoundBuffer) (on : Bool) : SoundBuffer :=
  if on then { b with armed := { b.armed with level := true } } else b

/-- Sets the frames per second. What played until now is counted at the old rate. -/
def setFrequency (b : SoundBuffer) (hz : Nat) : Except TransportError Unit × SoundBuffer :=
  if b.armed.frequency then
    (.error (.frequencyNotSupported hz), { b with armed := { b.armed with frequency := false } })
  else if hz = 0 ∨ maxSampleRate < hz then (.error (.frequencyNotSupported hz), b)
  else if b.playing then
    let b := b.freeze
    let anchor := if b.config.mode = .realtime then some ⟨b.age, b.consumed⟩ else b.anchor
    (.ok (), { b with frequency := hz, anchor })
  else (.ok (), { b with frequency := hz })

/-! ### What stays the same -/

@[simp] theorem size_freeze (b : SoundBuffer) : b.freeze.size = b.size := by
  unfold freeze; split <;> rfl

@[simp] theorem bytes_freeze (b : SoundBuffer) : b.freeze.bytes = b.bytes := by
  unfold freeze; split <;> rfl

@[simp] theorem bytes_halt (b : SoundBuffer) : b.halt.bytes = b.bytes := by
  unfold halt; split <;> simp

/-- A halted buffer does not play. -/
theorem playing_halt (b : SoundBuffer) : b.halt.playing = false := by
  unfold halt freeze
  split
  · split <;> rfl
  · next h => simpa using h

end SoundBuffer

end Playout
