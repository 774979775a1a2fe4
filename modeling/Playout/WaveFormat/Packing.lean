import Playout.Fault
import Playout.WaveFormat.Basic

/-!
# Packing samples

Samples are signed 32-bit words that use their full range whatever the depth they came from, so a
shallower sample is left-justified: its bits are the high ones. Packing keeps those and drops the
rest.

* `encodeSample` writes one sample: 8 bits unsigned around 128, the other depths signed, least
  significant byte first.
* `packInto` fills a buffer with as many whole samples as it has room for.
-/

namespace Playout

/-- A left-justified sample. -/
abbrev Sample := Int32

namespace WaveFormat

/-- Byte `k` of a word, counted from the least significant. -/
def byteOf (word : UInt32) (k : UInt32) : UInt8 := (word >>> (8 * k)).toUInt8

/-- The bytes of one sample in a depth of `bits`, if there is such a layout. Every depth other
than 8, 16 and 24 is taken for a whole word, which has to be its width. -/
def encodeSample (bits : Nat) (s : Sample) : Option (List UInt8) :=
  let w := s.toUInt32
  if bits = 8 then some [byteOf w 3 ^^^ 0x80]
  else if bits = 16 then some [byteOf w 2, byteOf w 3]
  else if bits = 24 then some [byteOf w 1, byteOf w 2, byteOf w 3]
  else if bits / 8 = 4 then some [byteOf w 0, byteOf w 1, byteOf w 2, byteOf w 3]
  else none

theorem length_encodeSample {bits : Nat} {s : Sample} {bytes : List UInt8}
    (h : encodeSample bits s = some bytes) : bytes.length = bits / 8 := by
  unfold encodeSample at h
  dsimp only at h
  split at h
  · next hb => cases h; subst hb; rfl
  split at h
  · next hb => cases h; subst hb; rfl
  split at h
  · next hb => cases h; subst hb; rfl
  split at h
  · next hb => cases h; exact hb.symm
  · cases h

/-- Packs `samples`, or names the width that no layout has. -/
def pack (f : WaveFormat) (samples : List Sample) : Except Fault (List UInt8) :=
  match samples.mapM (encodeSample f.bitsPerSample) with
  | some chunks => .ok chunks.flatten
  | none => .error (.sampleWidth f.bytesPerSample)

/-- Packs samples from the start of `out`, as many as fit whole, and leaves the rest of it as it
is. Gives the number of bytes written and the buffer after. -/
def packInto (f : WaveFormat) (samples : List Sample) (out : List UInt8) :
    Except Fault (Nat × List UInt8) :=
  let width := f.bytesPerSample
  if width = 0 then .ok (0, out)
  else
    let count := min samples.length (out.length / width)
    match f.pack (samples.take count) with
    | .ok bytes => .ok (count * width, bytes ++ out.drop (count * width))
    | .error e => .error e

/-- The bytes that packing writes into a buffer with room for all samples. -/
def packAll (f : WaveFormat) (samples : List Sample) : Except Fault (List UInt8) :=
  if f.bytesPerSample = 0 then .ok [] else f.pack samples

end WaveFormat

end Playout
