import Playout.Text.Record
import Playout.Transport.SoundBuffer

/-!
# Ring buffers

A ring buffer is a sound buffer addressed as a ring of `size` bytes: the caller names an offset
and bytes, and where they lie in memory is settled here. Writing and silencing go through one lock
of the hardware each, and a refused lock leaves every byte as it was.
-/

namespace Playout

/-- A sound buffer that is addressed as a ring. -/
structure RingBuffer where
  buffer : SoundBuffer
  /-- Bytes on the ring. -/
  size : Nat
  /-- The byte that silences. -/
  silence : UInt8
  deriving DecidableEq, Repr

namespace RingBuffer

/-- Reads the hardware's cursors. -/
def cursor (r : RingBuffer) : Except TransportError Cursor × RingBuffer :=
  let (answer, buffer) := r.buffer.cursor
  (answer, { r with buffer })

/-- Writes `data` from `offset` on, going round, at most a whole lap of it. Gives the region
covered. A hardware buffer smaller than the ring may grant less than that; the write then fails,
though what was granted is written. -/
def write (r : RingBuffer) (offset : Nat) (data : List UInt8) :
    Except TransportError Segments × RingBuffer :=
  let region := split offset data.length r.size
  if region.isEmpty then (.ok region, r)
  else
    match r.buffer.lock region.start region.length with
    | (.error e, buffer) => (.error e, { r with buffer })
    | (.ok granted, buffer) =>
      let data := data.take region.length
      let head := data.take granted.head
      let tail := (data.drop granted.head).take granted.tail
      let r := { r with buffer := buffer.put granted head tail }
      if head.length + tail.length = region.length then (.ok region, r)
      else (.error (.lockFailed region.start region.length), r)

/-- Silences `len` bytes from `offset` on, going round, at most a whole lap. -/
def fillSilence (r : RingBuffer) (offset len : Nat) :
    Except TransportError Segments × RingBuffer :=
  let region := split offset len r.size
  if region.isEmpty then (.ok region, r)
  else
    match r.buffer.lock region.start region.length with
    | (.error e, buffer) => (.error e, { r with buffer })
    | (.ok granted, buffer) =>
      let head := List.replicate granted.head r.silence
      let tail := List.replicate granted.tail r.silence
      (.ok region, { r with buffer := buffer.put granted head tail })

/-- Silences the whole ring. -/
def clear (r : RingBuffer) : Except TransportError Unit × RingBuffer :=
  match r.fillSilence 0 r.size with
  | (.ok _, r) => (.ok (), r)
  | (.error e, r) => (.error e, r)

/-- The fields of the ring, written out. -/
def describe (r : RingBuffer) : String :=
  Text.record "RingBuffer"
    [("size", toString r.size), ("silence", toString r.silence.toNat)]

/-! ### What stays the same -/

theorem size_write (r : RingBuffer) (offset : Nat) (data : List UInt8) :
    (r.write offset data).2.size = r.size := by
  unfold write
  dsimp only
  split
  · rfl
  split
  · rfl
  · split <;> rfl

theorem size_fillSilence (r : RingBuffer) (offset len : Nat) :
    (r.fillSilence offset len).2.size = r.size := by
  unfold fillSilence
  dsimp only
  split
  · rfl
  split <;> rfl

end RingBuffer

end Playout
