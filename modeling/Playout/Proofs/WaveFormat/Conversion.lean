import Playout.Proofs.WaveFormat.Rounding

/-!
# Bytes and time as an adjunction

On whole frames the two conversions determine each other: a number of bytes plays within a time
exactly if the time carries that many (`le_bytesOfTicks_iff`). So both are monotone, and a time is
never shorter than the bytes that it carries take to play.

The way there and back also loses nothing (`bytesOfTicks_ticksOfBytes`), but that does not follow
from the adjunction. A tick may carry several bytes, and rounding up to it then adds some. What
takes them away again is that only whole frames count, and that a tick is shorter than a frame of an
accepted format (`byteRate_lt`).
-/

namespace Playout.WaveFormat

variable {f : WaveFormat}

/-! ### Whole frames -/

/-- Cutting an incomplete frame off keeps the whole ones. -/
theorem le_wholeFrames_iff (align : 0 < f.blockAlign) {n : Nat} (whole : f.blockAlign ∣ n)
    (m : Nat) :
    n ≤ f.wholeFrames m ↔ n ≤ m := by
  constructor
  · intro within
    exact Nat.le_trans within (f.wholeFrames_le m)
  · intro within
    have next : n < f.wholeFrames m + f.blockAlign :=
      Nat.lt_of_le_of_lt within (lt_wholeFrames_add align m)
    exact Nat.le_of_lt_add_of_dvd next whole (f.blockAlign_dvd_wholeFrames m align)

/-- Less than a frame more than some whole frames is cut off. -/
theorem wholeFrames_eq_of_lt (align : 0 < f.blockAlign) {n m : Nat} (whole : f.blockAlign ∣ n)
    (le : n ≤ m) (lt : m < n + f.blockAlign) :
    f.wholeFrames m = n := by
  apply Nat.le_antisymm
  · have cut : f.wholeFrames m < n + f.blockAlign := Nat.lt_of_le_of_lt (f.wholeFrames_le m) lt
    exact Nat.le_of_lt_add_of_dvd cut (f.blockAlign_dvd_wholeFrames m align) whole
  · exact (le_wholeFrames_iff align whole m).2 le

theorem wholeFrames_mono (align : 0 < f.blockAlign) {m n : Nat} (le : m ≤ n) :
    f.wholeFrames m ≤ f.wholeFrames n := by
  rw [le_wholeFrames_iff align (f.blockAlign_dvd_wholeFrames m align)]
  exact Nat.le_trans (f.wholeFrames_le m) le

/-! ### Before the words -/

theorem exactBytes_mono (f : WaveFormat) {s t : Nat} (le : s ≤ t) :
    f.exactBytes s ≤ f.exactBytes t :=
  Nat.div_le_div_right (Nat.mul_le_mul_right _ le)

/-- A tick is shorter than a frame. -/
theorem byteRate_lt (valid : f.validate = .ok ()) :
    f.byteRate < f.blockAlign * ticksPerSecond := by
  obtain ⟨-, -, rate, -, -, bytes, -⟩ := of_validate valid
  rw [bytes, Nat.mul_comm]
  apply Nat.mul_lt_mul_of_pos_left _ (blockAlign_pos_of_validate valid)
  simp only [maxSampleRate, ticksPerSecond] at rate ⊢
  omega

/-- Rounding a playing time up adds less than a frame. -/
theorem exactBytes_exactTicks_lt (valid : f.validate = .ok ()) (n : Nat) :
    f.exactBytes (f.exactTicks n) < n + f.blockAlign := by
  have up := exactTicks_mul_lt (byteRate_pos_of_validate valid) n
  have tick := byteRate_lt valid
  simp only [exactBytes]
  rw [Nat.div_lt_iff_lt_mul (by decide), Nat.add_mul]
  omega

theorem le_exactBytes_exactTicks (valid : f.validate = .ok ()) (n : Nat) :
    n ≤ f.exactBytes (f.exactTicks n) := by
  rw [le_exactBytes_iff]
  exact le_exactTicks_mul (byteRate_pos_of_validate valid) n

/-! ### The conversions -/

section

variable (valid : f.validate = .ok ())
include valid

/-- Some whole frames play within a time exactly if it carries as many bytes. -/
theorem le_bytesOfTicks_iff {n : Nat} {t : Ticks} (whole : f.blockAlign ∣ n) (nonneg : 0 ≤ t)
    (ticks_fit : f.exactTicks n < 0x8000000000000000)
    (bytes_fit : f.exactBytes t.toNat < 0x8000000000000000) :
    n ≤ f.bytesOfTicks t ↔ f.ticksOfBytes n ≤ t := by
  obtain ⟨t, rfl⟩ := Int.eq_ofNat_of_zero_le nonneg
  rw [Int.toNat_natCast] at bytes_fit
  rw [ticksOfBytes_of_lt ticks_fit, bytesOfTicks_of_lt (by omega), Int.ofNat_le,
    le_wholeFrames_iff (blockAlign_pos_of_validate valid) whole, le_exactBytes_iff,
    exactTicks_le_iff (byteRate_pos_of_validate valid)]

/-- Whole frames survive the way to their playing time and back. -/
theorem bytesOfTicks_ticksOfBytes {n : Nat} (whole : f.blockAlign ∣ n)
    (fits : n < 0x8000000000000000) (ticks_fit : f.exactTicks n < 0x8000000000000000) :
    f.bytesOfTicks (f.ticksOfBytes n) = n := by
  have more := exactBytes_exactTicks_lt valid n
  obtain ⟨-, -, -, -, -, -, align_word, -⟩ := of_validate valid
  rw [ticksOfBytes_of_lt ticks_fit, bytesOfTicks_of_lt (by omega)]
  exact wholeFrames_eq_of_lt (blockAlign_pos_of_validate valid) whole
    (le_exactBytes_exactTicks valid n) more

theorem ticksOfBytes_mono {m n : Nat} (le : m ≤ n)
    (ticks_fit : f.exactTicks n < 0x8000000000000000) :
    f.ticksOfBytes m ≤ f.ticksOfBytes n := by
  have mono := exactTicks_mono (byteRate_pos_of_validate valid) le
  rw [ticksOfBytes_of_lt ticks_fit, ticksOfBytes_of_lt (Nat.lt_of_le_of_lt mono ticks_fit)]
  exact Int.ofNat_le.2 mono

theorem bytesOfTicks_mono {s t : Ticks} (le : s ≤ t)
    (bytes_fit : f.exactBytes t.toNat < 0x8000000000000000) :
    f.bytesOfTicks s ≤ f.bytesOfTicks t := by
  have mono : f.exactBytes s.toNat ≤ f.exactBytes t.toNat :=
    f.exactBytes_mono (Int.toNat_le_toNat le)
  simp only [bytesOfTicks]
  rw [wrapUnsigned_of_lt (by omega), wrapUnsigned_of_lt (by omega)]
  exact wholeFrames_mono (blockAlign_pos_of_validate valid) mono

/-- The bytes that a time carries play within it. -/
theorem ticksOfBytes_bytesOfTicks_le {t : Ticks} (nonneg : 0 ≤ t) (word : t < 0x8000000000000000)
    (bytes_fit : f.exactBytes t.toNat < 0x8000000000000000) :
    f.ticksOfBytes (f.bytesOfTicks t) ≤ t := by
  obtain ⟨t, rfl⟩ := Int.eq_ofNat_of_zero_le nonneg
  rw [Int.toNat_natCast] at bytes_fit
  have word : t < 0x8000000000000000 := Int.ofNat_lt.1 word
  have within := exactTicks_frames_le (byteRate_pos_of_validate valid) t
  rw [bytesOfTicks_of_lt (by omega), ticksOfBytes_of_lt (by omega)]
  exact Int.ofNat_le.2 within

end

/-- Bytes and time are an adjunction on the whole frames of an accepted format, as far as the
results fit their words. Of the two ways there and back the one from bytes loses nothing and the one
from a time never exceeds it, and both conversions are monotone. -/
theorem conversions_adjoint (valid : f.validate = .ok ()) :
    (∀ n, f.ticksOfBytes? n = .ok (f.ticksOfBytes n))
      ∧ (∀ (n : Nat) (t : Ticks), f.blockAlign ∣ n → 0 ≤ t →
        f.exactTicks n < 0x8000000000000000 → f.exactBytes t.toNat < 0x8000000000000000 →
        (n ≤ f.bytesOfTicks t ↔ f.ticksOfBytes n ≤ t))
      ∧ (∀ n, f.blockAlign ∣ n → n < 0x8000000000000000 →
        f.exactTicks n < 0x8000000000000000 → f.bytesOfTicks (f.ticksOfBytes n) = n)
      ∧ (∀ m n, m ≤ n → f.exactTicks n < 0x8000000000000000 →
        f.ticksOfBytes m ≤ f.ticksOfBytes n)
      ∧ (∀ s t : Ticks, s ≤ t → f.exactBytes t.toNat < 0x8000000000000000 →
        f.bytesOfTicks s ≤ f.bytesOfTicks t)
      ∧ ∀ t : Ticks, 0 ≤ t → t < 0x8000000000000000 →
        f.exactBytes t.toNat < 0x8000000000000000 → f.ticksOfBytes (f.bytesOfTicks t) ≤ t := by
  refine ⟨?_, ?_, ?_, ?_, ?_, ?_⟩
  · intro n
    exact if_neg (Nat.ne_of_gt (byteRate_pos_of_validate valid))
  · intro n t whole nonneg ticks_fit bytes_fit
    exact le_bytesOfTicks_iff valid whole nonneg ticks_fit bytes_fit
  · intro n whole fits ticks_fit
    exact bytesOfTicks_ticksOfBytes valid whole fits ticks_fit
  · intro m n le ticks_fit
    exact ticksOfBytes_mono valid le ticks_fit
  · intro s t le bytes_fit
    exact bytesOfTicks_mono valid le bytes_fit
  · intro t nonneg word bytes_fit
    exact ticksOfBytes_bytesOfTicks_le valid nonneg word bytes_fit

/-- At the highest frame rate a tick carries more than two bytes of eight channels of 32 bits. Three
frames play for a little over 39 ticks, so that they do not fit 39, and the 98 bytes that 40 ticks
carry are cut to them again. -/
theorem conversions_of_fast_format :
    (pcm 768000 8 32).validate = .ok () ∧ 2 * ticksPerSecond < (pcm 768000 8 32).byteRate
      ∧ (pcm 768000 8 32).exactBytes 40 = 98
      ∧ (pcm 768000 8 32).bytesOfTicks ((pcm 768000 8 32).ticksOfBytes 96) = 96
      ∧ ¬96 ≤ (pcm 768000 8 32).bytesOfTicks 39 := by
  have valid : (pcm 768000 8 32).validate = .ok () := rfl
  obtain ⟨-, adjoint, back, -⟩ := conversions_adjoint valid
  refine ⟨valid, by decide, by decide, ?_, ?_⟩
  · exact back 96 (by decide) (by decide) (by decide)
  · rw [adjoint 96 39 (by decide) (by decide) (by decide) (by decide)]
    decide

end Playout.WaveFormat
