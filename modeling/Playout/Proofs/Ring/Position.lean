import Playout.Ring.Segments

/-!
# Positions on an endless ring

Hardware that plays a ring in a loop passes an endless row of bytes. Byte number `x` of that row,
its *position*, lies at offset `x % size`; two positions less than a lap apart lie at different
offsets. This module reads `distance`, which sees offsets only, as a difference of positions.
-/

namespace Playout

/-- Between the offsets of two positions the ring shows their difference, whole laps left out. -/
theorem distance_mod {size p x : Nat} (pos : 0 < size) (le : p ≤ x) :
    distance (p % size) (x % size) size = (x - p) % size := by
  have part := Nat.mod_lt p pos
  have laps := Nat.div_add_mod p size
  have : x + size - p % size = (x - p) + size * (p / size + 1) := by
    rw [Nat.mul_add]
    omega
  rw [distance, Nat.add_sub_assoc (Nat.le_of_lt part), Nat.mod_add_mod, ← Nat.add_sub_assoc
    (Nat.le_of_lt part), this, Nat.add_mul_mod_self_left]

/-- Less than a lap apart, the distance is the difference. -/
theorem distance_of_lt {size p x : Nat} (le : p ≤ x) (lt : x < p + size) :
    distance (p % size) (x % size) size = x - p := by
  rw [distance_mod (by omega) le, Nat.mod_eq_of_lt (by omega)]

/-- Two positions less than a lap apart lie at different offsets. -/
theorem mod_ne_of_lt {size x y : Nat} (lt : x < y) (lap : y < x + size) : y % size ≠ x % size := by
  intro same
  have apart := distance_of_lt (Nat.le_of_lt lt) lap
  rw [same, distance_self] at apart
  omega

/-- Going `k` bytes further lengthens the distance by `k`, whole laps left out. -/
theorem distance_add_mod {size source : Nat} (lt : source < size) (target k : Nat) :
    distance source ((target + k) % size) size = (distance source target size + k) % size := by
  rw [distance, distance, Nat.mod_add_mod, Nat.add_sub_assoc (Nat.le_of_lt lt), Nat.mod_add_mod,
    Nat.add_sub_assoc (Nat.le_of_lt lt)]
  congr 1
  omega

/-- The ways between two different offsets make up a lap. -/
theorem distance_add_distance {size source target : Nat} (hs : source < size) (ht : target < size)
    (ne : target ≠ source) :
    distance source target size + distance target source size = size := by
  unfold distance
  rcases Nat.lt_or_gt_of_ne ne with before | behind
  · rw [Nat.mod_eq_of_lt (by omega), show source + size - target = source - target + size by omega,
      Nat.add_mod_right, Nat.mod_eq_of_lt (by omega)]
    omega
  · rw [show target + size - source = target - source + size by omega, Nat.add_mod_right,
      Nat.mod_eq_of_lt (by omega), Nat.mod_eq_of_lt (by omega)]
    omega

/-- Between an offset and the next lap of `source` every byte is as far on as it looks. -/
theorem distance_add_of_lt {size source target k : Nat} (hs : source < size) (ht : target < size)
    (lt : k < distance target source size) :
    distance source ((target + k) % size) size = distance source target size + k := by
  have ne : target ≠ source := by
    rintro rfl
    rw [distance_self] at lt
    exact Nat.not_lt_zero k lt
  have lap := distance_add_distance hs ht ne
  rw [distance_add_mod hs, Nat.mod_eq_of_lt (by omega)]

end Playout
