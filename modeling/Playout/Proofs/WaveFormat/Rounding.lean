import Playout.WaveFormat.Timing

/-!
# Rounding between bytes and time

Bytes to ticks rounds up and ticks to bytes rounds down to whole frames. This module provides what
the two roundings cost, for formats that have a byte rate:

* the playing time of bytes is monotone, and additive up to one tick (`exactTicks_add_le`,
  `exactTicks_add_ge`);
* the whole frames that play within a time fill it up to less than one frame
  (`exactTicks_frames_le`, `lt_exactTicks_frames_add`); and
* the results of the program's own conversions where they fit their 64-bit words.
-/

namespace Playout.WaveFormat

variable {f : WaveFormat}

/-! ### Playing times -/

theorem le_exactTicks_mul (h : 0 < f.byteRate) (n : Nat) :
    n * ticksPerSecond ≤ f.exactTicks n * f.byteRate :=
  (exactTicks_le_iff h n _).1 (Nat.le_refl _)

theorem exactTicks_mul_lt (h : 0 < f.byteRate) (n : Nat) :
    f.exactTicks n * f.byteRate < n * ticksPerSecond + f.byteRate := by
  have : f.exactTicks n * f.byteRate ≤ n * ticksPerSecond + f.byteRate - 1 :=
    Nat.div_mul_le_self _ _
  omega

theorem exactTicks_mono (h : 0 < f.byteRate) {m n : Nat} (le : m ≤ n) :
    f.exactTicks m ≤ f.exactTicks n :=
  (exactTicks_le_iff h m _).2
    (Nat.le_trans (Nat.mul_le_mul_right _ le) (le_exactTicks_mul h n))

theorem exactTicks_zero (h : 0 < f.byteRate) : f.exactTicks 0 = 0 :=
  Nat.le_zero.1 ((exactTicks_le_iff h 0 0).2 (by omega))

/-- More bytes play only if they take longer. -/
theorem lt_of_exactTicks_lt (h : 0 < f.byteRate) {m n : Nat}
    (lt : f.exactTicks m < f.exactTicks n) : m < n := by
  rcases Nat.lt_or_ge m n with less | more
  · exact less
  · exact absurd (exactTicks_mono h more) (Nat.not_le.2 lt)

theorem exactTicks_add_le (h : 0 < f.byteRate) (m n : Nat) :
    f.exactTicks (m + n) ≤ f.exactTicks m + f.exactTicks n := by
  have left := le_exactTicks_mul h m
  have right := le_exactTicks_mul h n
  rw [exactTicks_le_iff h, Nat.add_mul, Nat.add_mul]
  omega

/-- Rounding the parts up costs at most one tick more than rounding the whole up. -/
theorem exactTicks_add_ge (h : 0 < f.byteRate) (m n : Nat) :
    f.exactTicks m + f.exactTicks n ≤ f.exactTicks (m + n) + 1 := by
  have left := exactTicks_mul_lt h m
  have right := exactTicks_mul_lt h n
  have whole := le_exactTicks_mul h (m + n)
  -- Each part is rounded up by less than one tick, that is, by less than `byteRate` here.
  have bound : (f.exactTicks m + f.exactTicks n) * f.byteRate
      < (f.exactTicks (m + n) + 2) * f.byteRate := by
    rw [Nat.add_mul] at whole ⊢
    rw [Nat.add_mul]
    omega
  have := Nat.lt_of_mul_lt_mul_right bound
  omega

/-- A frame of an accepted format takes no longer than a second. -/
theorem exactTicks_blockAlign_le (valid : f.validate = .ok ()) :
    f.exactTicks f.blockAlign ≤ ticksPerSecond := by
  obtain ⟨-, rate, -, -, -, bytes, -⟩ := of_validate valid
  rw [exactTicks_le_iff (byteRate_pos_of_validate valid), bytes, Nat.mul_comm]
  exact Nat.mul_le_mul_left _ (Nat.le_mul_of_pos_left _ rate)

/-! ### Whole frames within a time -/

theorem exactTicks_frames_le (h : 0 < f.byteRate) (t : Nat) :
    f.exactTicks (f.wholeFrames (f.exactBytes t)) ≤ t := by
  rw [exactTicks_le_iff h, ← le_exactBytes_iff]
  exact f.wholeFrames_le _

theorem lt_wholeFrames_add (align : 0 < f.blockAlign) (n : Nat) :
    n < f.wholeFrames n + f.blockAlign := by
  have rest := Nat.mod_lt n align
  have part := Nat.mod_le n f.blockAlign
  have : max f.blockAlign 1 = f.blockAlign := by omega
  rw [wholeFrames, this]
  omega

/-- What is left of a time after the whole frames in it is shorter than a frame. -/
theorem lt_exactTicks_frames_add (valid : f.validate = .ok ()) (t : Nat) :
    t < f.exactTicks (f.wholeFrames (f.exactBytes t)) + f.exactTicks f.blockAlign := by
  have rate := byteRate_pos_of_validate valid
  have align := blockAlign_pos_of_validate valid
  have frames := le_exactTicks_mul rate (f.wholeFrames (f.exactBytes t))
  have frame := le_exactTicks_mul rate f.blockAlign
  -- One byte more would not play within the time, and a frame more is at least that byte.
  have bytes : t * f.byteRate < (f.exactBytes t + 1) * ticksPerSecond := by
    refine Nat.not_le.1 fun more => ?_
    exact Nat.not_succ_le_self _ ((f.le_exactBytes_iff (f.exactBytes t + 1) t).2 more)
  have next : (f.exactBytes t + 1) * ticksPerSecond
      ≤ (f.wholeFrames (f.exactBytes t) + f.blockAlign) * ticksPerSecond :=
    Nat.mul_le_mul_right _ (lt_wholeFrames_add align _)
  have : t * f.byteRate
      < (f.exactTicks (f.wholeFrames (f.exactBytes t)) + f.exactTicks f.blockAlign)
        * f.byteRate := by
    rw [Nat.add_mul (f.wholeFrames _)] at next
    rw [Nat.add_mul (f.exactTicks _)]
    omega
  exact Nat.lt_of_mul_lt_mul_right this

/-! ### Where the results fit their words -/

theorem ticksOfBytes_of_lt {n : Nat} (fits : f.exactTicks n < 0x8000000000000000) :
    f.ticksOfBytes n = f.exactTicks n :=
  wrapSigned_of_lt (by omega) (by omega)

theorem bytesOfTicks_of_lt {t : Nat} (fits : f.exactBytes t < 0x10000000000000000) :
    f.bytesOfTicks t = f.wholeFrames (f.exactBytes t) := by
  rw [bytesOfTicks, Int.toNat_natCast, wrapUnsigned_of_lt fits]

/-- The bytes that play in a time, played, fill it up to less than one frame. -/
theorem exactTicks_bytesOfTicks (valid : f.validate = .ok ()) {t : Int} (nonneg : 0 ≤ t)
    (fits : f.exactBytes t.natAbs < 0x10000000000000000) :
    (f.exactTicks (f.bytesOfTicks t) : Int) ≤ t
      ∧ t < f.exactTicks (f.bytesOfTicks t) + f.exactTicks f.blockAlign := by
  obtain ⟨n, rfl⟩ := Int.eq_ofNat_of_zero_le nonneg
  rw [Int.natAbs_natCast] at fits
  rw [bytesOfTicks_of_lt fits]
  have low := exactTicks_frames_le (byteRate_pos_of_validate valid) n
  have high := lt_exactTicks_frames_add valid n
  omega

end Playout.WaveFormat
