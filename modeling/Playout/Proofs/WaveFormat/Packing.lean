import Playout.WaveFormat.Packing

/-!
# Packing sample by sample

In the packed depths, packing never fails, and the bytes of a list of samples are those of its
samples one after the other, each as wide as the depth. A buffer takes as many of them as it has
room for (`packInto_eq`).
-/

namespace Playout.WaveFormat

/-- The depths that have a layout. -/
def PackedDepth (bits : Nat) : Prop := bits = 8 ∨ bits = 16 ∨ bits = 24 ∨ bits = 32

/-- The bytes of one sample. -/
def sampleBytes (bits : Nat) (s : Sample) : List UInt8 := (encodeSample bits s).getD []

section Packed

variable {bits : Nat} (packed : PackedDepth bits)
include packed

theorem encodeSample_eq (s : Sample) : encodeSample bits s = some (sampleBytes bits s) := by
  rcases packed with rfl | rfl | rfl | rfl <;> rfl

theorem length_sampleBytes (s : Sample) : (sampleBytes bits s).length = bits / 8 :=
  length_encodeSample (encodeSample_eq packed s)

end Packed

variable {f : WaveFormat} (packed : PackedDepth f.bitsPerSample)
include packed

theorem bytesPerSample_ne_zero_of_packedDepth : f.bytesPerSample ≠ 0 := by
  rcases packed with bits | bits | bits | bits <;> simp [bytesPerSample, bits]

theorem pack_eq (samples : List Sample) :
    f.pack samples = .ok (samples.flatMap (sampleBytes f.bitsPerSample)) := by
  have layouts : encodeSample f.bitsPerSample = fun s => pure (sampleBytes f.bitsPerSample s) :=
    funext (encodeSample_eq packed)
  rw [pack, layouts, List.mapM_pure]
  simp only [Option.pure_def, List.flatMap]

theorem packAll_eq (samples : List Sample) :
    f.packAll samples = .ok (samples.flatMap (sampleBytes f.bitsPerSample)) := by
  rw [packAll, if_neg (bytesPerSample_ne_zero_of_packedDepth packed), pack_eq packed]

/-- The samples that a buffer has room for take the place of its first bytes. -/
theorem packInto_eq {samples : List Sample} {out : List UInt8} {count : Nat}
    (count_eq : count = min samples.length (out.length / f.bytesPerSample)) :
    f.packInto samples out = .ok (count * f.bytesPerSample,
      (samples.take count).flatMap (sampleBytes f.bitsPerSample)
        ++ out.drop (count * f.bytesPerSample)) := by
  subst count_eq
  simp only [packInto, if_neg (bytesPerSample_ne_zero_of_packedDepth packed), pack_eq packed]

theorem length_flatMap_sampleBytes (samples : List Sample) :
    (samples.flatMap (sampleBytes f.bitsPerSample)).length = samples.length * f.bytesPerSample := by
  induction samples with
  | nil => simp
  | cons s samples ih =>
    rw [List.flatMap_cons, List.length_append, ih, length_sampleBytes packed, List.length_cons,
      Nat.succ_mul, Nat.add_comm]
    rfl

end Playout.WaveFormat
