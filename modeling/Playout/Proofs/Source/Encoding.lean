import Playout.Proofs.WaveFormat.Packing
import Playout.Source.Encoding

/-!
# Packing undoes reading

Files hold integers of the packed depths the way they are packed: unsigned around 128 in one byte,
otherwise signed with the least significant byte first (`Encoding.Packed`). Reading makes the bytes
of such an integer the high bytes of a sample, and packing gets them back, sample by sample
(`sampleBytes_decode`) and so for any number of them (`flatMap_sampleBytes_decodeMany`).
-/

namespace Playout

open WaveFormat (byteOf sampleBytes)

/-! ### Samples by their bytes -/

/-- The sample with the given bytes, from the least significant one on. -/
def Sample.ofBytes (a b c d : UInt8) : Sample :=
  (ByteOrder.little.word [a, b, c, d]).toUInt32.toInt32

theorem byteOf_ofBytes (a b c d : UInt8) :
    byteOf (Sample.ofBytes a b c d).toUInt32 0 = a ∧ byteOf (Sample.ofBytes a b c d).toUInt32 1 = b
      ∧ byteOf (Sample.ofBytes a b c d).toUInt32 2 = c
      ∧ byteOf (Sample.ofBytes a b c d).toUInt32 3 = d := by
  simp only [Sample.ofBytes, ByteOrder.word, byteOf, ← UInt8.toBitVec_inj]
  -- Bit by bit: a shift of the word that the bytes spell brings each of them to the low end.
  refine ⟨?_, ?_, ?_, ?_⟩ <;> ext i lt <;> simp <;> grind

/-- A shift by two bytes is two shifts by one. -/
theorem shiftLeft_sixteen (word : UInt32) : word <<< 16 = word <<< 8 <<< 8 := by
  rw [show (16 : UInt32) = 8 + 8 by decide, UInt32.shiftLeft_add_of_toNat_lt (by decide)]

theorem shiftLeft_twentyFour (word : UInt32) : word <<< 24 = word <<< 8 <<< 8 <<< 8 := by
  rw [show (24 : UInt32) = 16 + 8 by decide, UInt32.shiftLeft_add_of_toNat_lt (by decide),
    shiftLeft_sixteen]

namespace Encoding

/-- Integers that are stored as they are packed. -/
inductive Packed : Encoding → Prop
  | one : Packed .unsigned
  | two : Packed (.signed 2 .little)
  | three : Packed (.signed 3 .little)
  | four : Packed (.signed 4 .little)

variable {e : Encoding}

theorem Packed.width_pos (packed : e.Packed) : 0 < e.width := by
  cases packed <;> decide

theorem Packed.depth_eq (packed : e.Packed) : e.depth = 8 * e.width := by
  cases packed <;> rfl

theorem Packed.depth_packed (packed : e.Packed) : WaveFormat.PackedDepth e.depth := by
  cases packed <;> simp [WaveFormat.PackedDepth, depth]

/-! ### What is read, byte by byte

The bytes of an integer become the high bytes of the sample, and zeros go before them. -/

theorem decode_unsigned (a : UInt8) : unsigned.decode [a] = .ofBytes 0 0 0 (a ^^^ 0x80) := by
  simp [decode, leftJustified, ByteOrder.word, Sample.ofBytes, shiftLeft_twentyFour]

theorem decode_two (a b : UInt8) : (signed 2 .little).decode [a, b] = .ofBytes 0 0 a b := by
  simp [decode, leftJustified, ByteOrder.word, Sample.ofBytes, shiftLeft_sixteen]

theorem decode_three (a b c : UInt8) : (signed 3 .little).decode [a, b, c] = .ofBytes 0 a b c := by
  simp [decode, leftJustified, ByteOrder.word, Sample.ofBytes]

theorem decode_four (a b c d : UInt8) :
    (signed 4 .little).decode [a, b, c, d] = .ofBytes a b c d := by
  simp [decode, leftJustified, Sample.ofBytes]

/-- Packing a sample that was read gives the bytes that were read. -/
theorem Packed.sampleBytes_decode (packed : e.Packed) {bytes : List UInt8}
    (whole : bytes.length = e.width) : sampleBytes e.depth (e.decode bytes) = bytes := by
  cases packed with
  | one =>
    match bytes, whole with
    | [a], _ =>
      have bytes := byteOf_ofBytes 0 0 0 (a ^^^ 0x80)
      simp only [sampleBytes, WaveFormat.encodeSample, depth, decode_unsigned, bytes, if_true,
        Option.getD_some]
      rw [UInt8.xor_assoc, UInt8.xor_self, UInt8.xor_zero]
  | two =>
    match bytes, whole with
    | [a, b], _ =>
      have bytes := byteOf_ofBytes 0 0 a b
      simp [sampleBytes, WaveFormat.encodeSample, depth, decode_two, bytes]
  | three =>
    match bytes, whole with
    | [a, b, c], _ =>
      have bytes := byteOf_ofBytes 0 a b c
      simp [sampleBytes, WaveFormat.encodeSample, depth, decode_three, bytes]
  | four =>
    match bytes, whole with
    | [a, b, c, d], _ =>
      have bytes := byteOf_ofBytes a b c d
      simp [sampleBytes, WaveFormat.encodeSample, depth, decode_four, bytes]

/-- Packing samples that were read gives the bytes that they were read from. -/
theorem Packed.flatMap_sampleBytes_decodeMany (packed : e.Packed) (count : Nat)
    {bytes : List UInt8} (enough : count * e.width ≤ bytes.length) :
    (e.decodeMany count bytes).flatMap (sampleBytes e.depth) = bytes.take (count * e.width) := by
  induction count generalizing bytes with
  | zero => simp [decodeMany]
  | succ count ih =>
    rw [Nat.succ_mul] at enough ⊢
    have first : (bytes.take e.width).length = e.width := by
      rw [List.length_take]
      omega
    have rest : count * e.width ≤ (bytes.drop e.width).length := by
      rw [List.length_drop]
      omega
    rw [decodeMany, List.flatMap_cons, packed.sampleBytes_decode first, ih rest, ← List.take_add,
      Nat.add_comm]

/-- Only the bytes of the samples that are read matter. -/
theorem decodeMany_take (e : Encoding) (count : Nat) {n : Nat} (bytes : List UInt8)
    (enough : count * e.width ≤ n) :
    e.decodeMany count (bytes.take n) = e.decodeMany count bytes := by
  induction count generalizing n bytes with
  | zero => rfl
  | succ count ih =>
    rw [Nat.succ_mul] at enough
    have first : (bytes.take n).take e.width = bytes.take e.width := by
      rw [List.take_take, Nat.min_eq_left (by omega)]
    rw [decodeMany, decodeMany, first, List.drop_take, ih _ (by omega)]

end Encoding

end Playout
