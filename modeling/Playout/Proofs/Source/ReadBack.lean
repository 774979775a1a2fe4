import Mathlib.Data.Nat.Digits.Defs
import Playout.Proofs.Source.Encoding

/-!
# Reading undoes packing

In the packed depths a sample that was packed is read back with those bits cleared that the depth
has no room for (`Encoding.Packed.decode_sampleBytes`). Together with the opposite direction
(`Encoding.Packed.sampleBytes_decode`), packing into a buffer and reading are inverse
(`WaveFormat.packInto_round_trips`).

## Design points

* **Words are compared as numbers.** Packing takes words apart and reading puts them together, both
  by shifts. On natural numbers these are divisions and multiplications by powers of two, so that
  a fact about the four bytes of a word is linear arithmetic.
* **What bytes stand for is said without reading them.** `WaveFormat.storedInteger` goes by digits
  in base 256; that reading gives this integer, moved to the high end, is a theorem.
-/

namespace Playout

open WaveFormat (byteOf sampleBytes)

/-! ### Words and bytes as numbers -/

theorem ofDigits_bytes_lt (bytes : List UInt8) :
    Nat.ofDigits 256 (bytes.map UInt8.toNat) < 256 ^ bytes.length := by
  have digits : ∀ digit ∈ bytes.map UInt8.toNat, digit < 256 := by
    simpa using fun b _ => b.toNat_lt
  simpa using Nat.ofDigits_lt_base_pow_length (by decide) digits

/-- One more byte is one more digit, if the word has room for it. -/
theorem ByteOrder.number_little_cons (b : UInt8) {bytes : List UInt8}
    (room : little.number bytes < 256 ^ 7) :
    little.number (b :: bytes) = b.toNat + 256 * little.number bytes := by
  have byte := b.toNat_lt
  have shifted : (little.word bytes <<< 8).toNat = little.number bytes <<< 8 := by
    rw [UInt64.toNat_shiftLeft]
    refine Nat.mod_eq_of_lt ?_
    show little.number bytes <<< 8 < 2 ^ 64
    rw [Nat.shiftLeft_eq]
    omega
  calc little.number (b :: bytes)
    _ = little.number bytes <<< 8 ||| b.toNat := by
      rw [← shifted]
      exact UInt64.toNat_or ..
    _ = b.toNat + 256 * little.number bytes := by
      rw [← Nat.shiftLeft_add_eq_or_of_lt (by omega), Nat.shiftLeft_eq]
      omega

/-- Bytes that begin with the least significant one are the digits of their number. -/
theorem ByteOrder.number_little {bytes : List UInt8} (fits : bytes.length ≤ 8) :
    little.number bytes = Nat.ofDigits 256 (bytes.map UInt8.toNat) := by
  induction bytes with
  | nil => rfl
  | cons b bytes ih =>
    rw [List.length_cons] at fits
    have rest := ih (by omega)
    have room : little.number bytes < 256 ^ 7 :=
      rest ▸ (ofDigits_bytes_lt bytes).trans_le (Nat.pow_le_pow_right (by decide) (by omega))
    rw [number_little_cons b room, rest, List.map_cons, Nat.ofDigits_cons]

theorem WaveFormat.toNat_byteOf (word : UInt32) :
    (byteOf word 0).toNat = word.toNat % 256 ∧ (byteOf word 1).toNat = word.toNat / 256 % 256
      ∧ (byteOf word 2).toNat = word.toNat / 65536 % 256
      ∧ (byteOf word 3).toNat = word.toNat / 16777216 % 256 := by
  simp [byteOf, Nat.shiftRight_eq_div_pow]

namespace Sample

theorem toNat_inj {s t : Sample} : s.toUInt32.toNat = t.toUInt32.toNat ↔ s = t := by
  rw [UInt32.toNat_inj, ← Int32.toBitVec_inj, ← UInt32.toBitVec_inj]
  rfl

theorem toInt_eq (s : Sample) : s.toInt = Int.bmod s.toUInt32.toNat (2 ^ 32) :=
  BitVec.toInt_eq_toNat_bmod _

theorem toNat_ofBytes (a b c d : UInt8) :
    (ofBytes a b c d).toUInt32.toNat
      = a.toNat + 256 * b.toNat + 65536 * c.toNat + 16777216 * d.toNat := by
  have digits : ByteOrder.little.number [a, b, c, d] = _ :=
    ByteOrder.number_little (Nat.le_add_left 4 4)
  simp only [ByteOrder.number, List.map_cons, List.map_nil, Nat.ofDigits_cons, Nat.ofDigits_nil]
    at digits
  have := a.toNat_lt
  have := b.toNat_lt
  have := c.toNat_lt
  have := d.toNat_lt
  simp only [ofBytes, UInt32.toUInt32_toInt32, UInt64.toNat_toUInt32, digits]
  omega

/-! ### Samples without their low bits -/

/-- A sample with its `k` low bits cleared. -/
def clearLow (k : Nat) (s : Sample) : Sample := .ofBitVec (s.toBitVec >>> k <<< k)

theorem toNat_clearLow (k : Nat) (s : Sample) :
    (s.clearLow k).toUInt32.toNat = s.toUInt32.toNat / 2 ^ k * 2 ^ k := by
  show (s.toBitVec >>> k <<< k).toNat = s.toBitVec.toNat / 2 ^ k * 2 ^ k
  rw [BitVec.toNat_shiftLeft, BitVec.toNat_ushiftRight, Nat.shiftLeft_eq, Nat.shiftRight_eq_div_pow]
  exact Nat.mod_eq_of_lt ((Nat.div_mul_le_self ..).trans_lt s.toBitVec.isLt)

/-- Clearing whole bytes puts zeros in their places. -/
theorem clearLow_eq_ofBytes (s : Sample) :
    s.clearLow 0 = ofBytes (byteOf s.toUInt32 0) (byteOf s.toUInt32 1) (byteOf s.toUInt32 2)
        (byteOf s.toUInt32 3)
      ∧ s.clearLow 8 = ofBytes 0 (byteOf s.toUInt32 1) (byteOf s.toUInt32 2) (byteOf s.toUInt32 3)
      ∧ s.clearLow 16 = ofBytes 0 0 (byteOf s.toUInt32 2) (byteOf s.toUInt32 3)
      ∧ s.clearLow 24 = ofBytes 0 0 0 (byteOf s.toUInt32 3) := by
  obtain ⟨byte0, byte1, byte2, byte3⟩ := WaveFormat.toNat_byteOf s.toUInt32
  have word_lt := s.toUInt32.toNat_lt
  simp only [← toNat_inj, toNat_clearLow, toNat_ofBytes, UInt8.toNat_zero]
  omega

end Sample

namespace WaveFormat

/-- The integer that the bytes of a packed sample stand for: in 8 bits the distance from 128,
otherwise two's complement with the least significant byte first. -/
def storedInteger (bits : Nat) (bytes : List UInt8) : Int :=
  let number : Nat := Nat.ofDigits 256 (bytes.map UInt8.toNat)
  if bits = 8 then number - 128 else Int.bmod number (2 ^ bits)

/-- How the samples are read that a format packs. -/
def encoding (f : WaveFormat) : Encoding :=
  if f.bitsPerSample = 8 then .unsigned else .signed f.bytesPerSample .little

end WaveFormat

/-! ### One sample -/

namespace Encoding

/-- Flipping the top bit of a byte is adding half its range. -/
theorem toNat_xor_half (a : UInt8) : (a ^^^ 0x80).toNat = (a.toNat + 128) % 256 := by
  have same : ∀ x : BitVec 8, x ^^^ 0x80 = x + 0x80 := by decide
  show (a.toBitVec ^^^ 0x80).toNat = _
  rw [same, BitVec.toNat_add]
  rfl

variable {e : Encoding}

/-- Reading a sample that was packed gives the bits that were packed. -/
theorem Packed.decode_sampleBytes (packed : e.Packed) (s : Sample) :
    e.decode (sampleBytes e.depth s) = s.clearLow (32 - e.depth) := by
  obtain ⟨clear0, clear8, clear16, clear24⟩ := s.clearLow_eq_ofBytes
  cases packed with
  | one =>
    have flipped : byteOf s.toUInt32 3 ^^^ 0x80 ^^^ 0x80 = byteOf s.toUInt32 3 := by
      rw [UInt8.xor_assoc, UInt8.xor_self, UInt8.xor_zero]
    exact (decode_unsigned _).trans (flipped.symm ▸ clear24.symm)
  | two => exact (decode_two ..).trans clear16.symm
  | three => exact (decode_three ..).trans clear8.symm
  | four => exact (decode_four ..).trans clear0.symm

/-- Justifying a word to the left takes its sign bit to the sign bit of the sample. -/
theorem toInt_leftJustified {width : Nat} (pos : 0 < width) (le : width ≤ 4) (word : UInt64) :
    (leftJustified width word).toInt
      = Int.bmod word.toNat (2 ^ (8 * width)) * 2 ^ (32 - 8 * width) := by
  rw [Sample.toInt_eq]
  obtain rfl | rfl | rfl | rfl : width = 1 ∨ width = 2 ∨ width = 3 ∨ width = 4 := by omega
  all_goals simp [leftJustified, Nat.shiftLeft_eq, Int.bmod] <;> omega

theorem toInt_decode_unsigned (a : UInt8) :
    (unsigned.decode [a]).toInt = WaveFormat.storedInteger 8 [a] * 2 ^ 24 := by
  have byte := a.toNat_lt
  have stored : WaveFormat.storedInteger 8 [a] = a.toNat - 128 := by
    simp [WaveFormat.storedInteger, Nat.ofDigits_cons]
  rw [decode_unsigned, Sample.toInt_eq, Sample.toNat_ofBytes, toNat_xor_half, stored, Int.bmod,
    UInt8.toNat_zero]
  omega

theorem toInt_decode_signed {width : Nat} (wide : 1 < width) (le : width ≤ 4)
    {bytes : List UInt8} (whole : bytes.length = width) :
    ((signed width .little).decode bytes).toInt
      = WaveFormat.storedInteger (8 * width) bytes * 2 ^ (32 - 8 * width) := by
  have fits : bytes.length ≤ 8 := by omega
  rw [decode, toInt_leftJustified (by omega) le, WaveFormat.storedInteger, if_neg (by omega),
    ← ByteOrder.number_little fits, ByteOrder.number]

/-- What is read is the integer that the bytes stand for, left-justified. -/
theorem Packed.toInt_decode (packed : e.Packed) {bytes : List UInt8}
    (whole : bytes.length = e.width) :
    (e.decode bytes).toInt = WaveFormat.storedInteger e.depth bytes * 2 ^ (32 - e.depth) := by
  cases packed with
  | one =>
    match bytes, whole with
    | [a], _ => exact toInt_decode_unsigned a
  | two => exact toInt_decode_signed (by decide) (by decide) whole
  | three => exact toInt_decode_signed (by decide) (by decide) whole
  | four => exact toInt_decode_signed (by decide) (by decide) whole

/-! ### Many samples -/

/-- Reading samples that were packed gives them back in their order, whatever comes behind them. -/
theorem Packed.decodeMany_flatMap_sampleBytes (packed : e.Packed) (samples : List Sample)
    (rest : List UInt8) :
    e.decodeMany samples.length (samples.flatMap (sampleBytes e.depth) ++ rest)
      = samples.map (Sample.clearLow (32 - e.depth)) := by
  induction samples with
  | nil => rfl
  | cons s samples ih =>
    have width : (sampleBytes e.depth s).length = e.width := by
      rw [WaveFormat.length_sampleBytes packed.depth_packed, packed.depth_eq,
        Nat.mul_div_cancel_left _ (by decide)]
    rw [List.length_cons, decodeMany, List.flatMap_cons, List.append_assoc,
      List.take_left' width, List.drop_left' width, packed.decode_sampleBytes, ih, List.map_cons]

end Encoding

namespace WaveFormat

variable {f : WaveFormat} (packed : PackedDepth f.bitsPerSample)
include packed

theorem encoding_packed : f.encoding.Packed := by
  rcases packed with bits | bits | bits | bits <;> simp only [encoding, bytesPerSample, bits]
  · exact .one
  · exact .two
  · exact .three
  · exact .four

theorem depth_encoding : f.encoding.depth = f.bitsPerSample := by
  rcases packed with bits | bits | bits | bits <;>
    simp [encoding, bytesPerSample, bits, Encoding.depth]

theorem width_encoding : f.encoding.width = f.bytesPerSample := by
  rcases packed with bits | bits | bits | bits <;>
    simp [encoding, bytesPerSample, bits, Encoding.width]

theorem low_bits_eq : 32 - f.encoding.depth = 32 - 8 * f.bytesPerSample := by
  rw [(encoding_packed packed).depth_eq, width_encoding packed]

/-- Reading what was packed. -/
theorem decodeMany_flatMap_sampleBytes (samples : List Sample) :
    f.encoding.decodeMany samples.length (samples.flatMap (sampleBytes f.bitsPerSample))
      = samples.map (Sample.clearLow (32 - 8 * f.bytesPerSample)) := by
  have back := (encoding_packed packed).decodeMany_flatMap_sampleBytes samples []
  rwa [List.append_nil, low_bits_eq packed, depth_encoding packed] at back

/-- Packing what was read from whole samples. -/
theorem packInto_decodeMany {n : Nat} {bytes out : List UInt8}
    (whole : bytes.length = n * f.bytesPerSample) (room : bytes.length ≤ out.length) :
    f.packInto (f.encoding.decodeMany n bytes) out
      = .ok (bytes.length, bytes ++ out.drop bytes.length) := by
  have width_pos := Nat.pos_of_ne_zero (bytesPerSample_ne_zero_of_packedDepth packed)
  have fits : n ≤ out.length / f.bytesPerSample :=
    (Nat.le_div_iff_mul_le width_pos).2 (whole ▸ room)
  have all : n * f.encoding.width = bytes.length := by rw [whole, width_encoding packed]
  have back := (encoding_packed packed).flatMap_sampleBytes_decodeMany n all.le
  rw [all, List.take_length, depth_encoding packed] at back
  have length_eq := Encoding.length_decodeMany f.encoding n bytes
  have count_eq : n = min (f.encoding.decodeMany n bytes).length
      (out.length / f.bytesPerSample) := by
    rw [length_eq, Nat.min_eq_left fits]
  rw [packInto_eq packed count_eq, List.take_of_length_le length_eq.le, back, whole]

/-- Packing into a buffer writes as many whole samples as it has room for and leaves what is behind
them. Reading what was written gives these samples, with the bits cleared that the depth has no room
for; packing what was read from whole samples gives their bytes. What is read is the integer that
the bytes stand for, left-justified. -/
theorem packInto_round_trips (samples : List Sample) (out : List UInt8) :
    let width := f.bytesPerSample
    let count := min samples.length (out.length / width)
    (∃ written, f.packInto samples out = .ok (count * width, written ++ out.drop (count * width))
        ∧ written.length = count * width
        ∧ f.encoding.decodeMany count written
          = (samples.take count).map (Sample.clearLow (32 - 8 * width)))
      ∧ (∀ (n : Nat) (bytes : List UInt8), bytes.length = n * width → bytes.length ≤ out.length →
          f.packInto (f.encoding.decodeMany n bytes) out
            = .ok (bytes.length, bytes ++ out.drop bytes.length))
      ∧ ∀ bytes : List UInt8, bytes.length = width →
          (f.encoding.decode bytes).toInt
            = storedInteger f.bitsPerSample bytes * 2 ^ (32 - 8 * width) := by
  intro width count
  have taken : (samples.take count).length = count := by
    rw [List.length_take, Nat.min_eq_left (Nat.min_le_left ..)]
  refine ⟨⟨_, packInto_eq packed rfl, ?_, ?_⟩, ?_, ?_⟩
  · rw [length_flatMap_sampleBytes packed, taken]
  · have back := decodeMany_flatMap_sampleBytes packed (samples.take count)
    rwa [taken] at back
  · intro n bytes whole room
    exact packInto_decodeMany packed whole room
  · intro bytes whole
    have number := (encoding_packed packed).toInt_decode (whole.trans (width_encoding packed).symm)
    rwa [low_bits_eq packed, depth_encoding packed] at number

omit packed

/-- In 24 bits, a buffer of eight bytes takes two of three samples, each without its low byte. -/
theorem packInto_round_trips_two_of_three :
    let f := pcm 48000 1 24
    let out : List UInt8 := [0, 0, 0, 0, 0, 0, 7, 8]
    (∃ written, f.packInto [0x12345678, -2, 5] out = .ok (6, written ++ [7, 8])
        ∧ written.length = 6 ∧ f.encoding.decodeMany 2 written = [0x12345600, -256])
      ∧ f.packInto (f.encoding.decodeMany 2 [1, 2, 3, 4, 5, 6]) out
        = .ok (6, [1, 2, 3, 4, 5, 6, 7, 8])
      ∧ (f.encoding.decode [0, 0, 0xC0]).toInt = -0x400000 * 2 ^ 8 := by
  intro f out
  have packed : PackedDepth f.bitsPerSample := .inr (.inr (.inl rfl))
  obtain ⟨⟨written, called, length_eq, read⟩, again, number⟩ :=
    packInto_round_trips packed [0x12345678, -2, 5] out
  have width : f.bytesPerSample = 3 := by decide
  have count : min [0x12345678, -2, (5 : Sample)].length (out.length / f.bytesPerSample) = 2 := by
    decide
  rw [count] at called length_eq read
  rw [width] at called length_eq
  refine ⟨⟨written, called, length_eq, read.trans (by decide)⟩, ?_, ?_⟩
  · exact again 2 [1, 2, 3, 4, 5, 6] (by decide) (by decide)
  · exact (number [0, 0, 0xC0] (by decide)).trans (by decide)

end WaveFormat

end Playout
