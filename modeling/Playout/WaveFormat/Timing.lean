import Playout.Ticks
import Playout.Fault
import Playout.WaveFormat.Basic

/-!
# Bytes and time

The two conversions between a number of bytes and its playing time. Bytes to ticks rounds up and
ticks to bytes rounds down to a whole frame, so that a frame-aligned number of bytes survives the
way there and back. Results that outgrow a 64-bit word keep its low 64 bits; the exact values
before that are `exactTicks` and `exactBytes`.
-/

namespace Playout.WaveFormat

/-- The playing time of `n` bytes in ticks, rounded up. -/
def exactTicks (f : WaveFormat) (n : Nat) : Nat :=
  (n * ticksPerSecond + f.byteRate - 1) / f.byteRate

/-- The bytes that play in `ticks`, rounded down. -/
def exactBytes (f : WaveFormat) (ticks : Nat) : Nat :=
  ticks * f.byteRate / ticksPerSecond

/-- The playing time of `n` bytes; a format without a byte rate plays nothing. -/
def ticksOfBytes (f : WaveFormat) (n : Nat) : Ticks := wrapSigned (f.exactTicks n)

/-- `ticksOfBytes` where it has a meaning. -/
def ticksOfBytes? (f : WaveFormat) (n : Nat) : Except Fault Ticks :=
  if f.byteRate = 0 then .error .zeroByteRate else .ok (f.ticksOfBytes n)

/-- `n` without its last, incomplete frame. -/
def wholeFrames (f : WaveFormat) (n : Nat) : Nat := n - n % max f.blockAlign 1

/-- The bytes of the whole frames that play in `ticks`; a time that is not positive has none. -/
def bytesOfTicks (f : WaveFormat) (ticks : Ticks) : Nat :=
  f.wholeFrames (wrapUnsigned (f.exactBytes ticks.toNat))

/-! ### Rounding -/

theorem wholeFrames_le (f : WaveFormat) (n : Nat) : f.wholeFrames n ≤ n := Nat.sub_le _ _

theorem blockAlign_dvd_wholeFrames (f : WaveFormat) (n : Nat) (h : 0 < f.blockAlign) :
    f.blockAlign ∣ f.wholeFrames n := by
  have : max f.blockAlign 1 = f.blockAlign := by omega
  rw [wholeFrames, this]
  exact Nat.dvd_sub_mod n

theorem bytesOfTicks_of_nonpos (f : WaveFormat) {ticks : Ticks} (h : ticks ≤ 0) :
    f.bytesOfTicks ticks = 0 := by
  simp [bytesOfTicks, exactBytes, Int.toNat_of_nonpos h, wrapUnsigned, wholeFrames]

/-- Rounding up: a time covers `n` bytes exactly when it is at least their playing time. -/
theorem exactTicks_le_iff {f : WaveFormat} (h : 0 < f.byteRate) (n t : Nat) :
    f.exactTicks n ≤ t ↔ n * ticksPerSecond ≤ t * f.byteRate := by
  unfold exactTicks
  rw [← Nat.lt_succ_iff, Nat.div_lt_iff_lt_mul h, Nat.succ_mul]
  omega

/-- Rounding down: `n` bytes play within a time exactly when it carries at least that many. -/
theorem le_exactBytes_iff (f : WaveFormat) (n t : Nat) :
    n ≤ f.exactBytes t ↔ n * ticksPerSecond ≤ t * f.byteRate := by
  unfold exactBytes
  rw [Nat.le_div_iff_mul_le (by decide)]

end Playout.WaveFormat
