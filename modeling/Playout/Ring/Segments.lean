import Playout.Fault

/-!
# Stretches of a ring

Bytes on a ring of `size` are named by offsets below `size`; after the last one comes the first.
A stretch of bytes on it is at most two stretches of the memory that holds it, the second of them
at the start. `split` finds them, `distance` counts the bytes from one offset on to another.
-/

namespace Playout

/-- The bytes `[start, start + head)` of a ring, followed by its bytes `[0, tail)`. -/
structure Segments where
  start : Nat
  head : Nat
  tail : Nat
  deriving DecidableEq, Repr

namespace Segments

/-- Bytes covered. -/
def length (s : Segments) : Nat := s.head + s.tail

def isEmpty (s : Segments) : Bool := s.length == 0

/-- The offset after the last byte covered, on a ring of `size`. -/
def stop (s : Segments) (size : Nat) : Nat :=
  if s.tail = 0 then (s.start + s.head) % size else s.tail % size

/-- `stop` where the ring has an offset at all. -/
def stop? (s : Segments) (size : Nat) : Except Fault Nat :=
  if size = 0 then .error .emptyRing else .ok (s.stop size)

end Segments

/-- The `len` bytes from `offset` on, going round a ring of `size`; at most all of it. -/
def split (offset len size : Nat) : Segments :=
  if size = 0 then ⟨0, 0, 0⟩
  else
    let start := offset % size
    let len := min len size
    let head := min len (size - start)
    ⟨start, head, len - head⟩

/-- Bytes from `source` on to `target`, going round a ring of `size`. -/
def distance (source target size : Nat) : Nat := (target + size - source) % size

/-- `distance` where the ring has an offset at all. -/
def distance? (source target size : Nat) : Except Fault Nat :=
  if size = 0 then .error .emptyRing else .ok (distance source target size)

/-! ### Extent -/

theorem length_split (offset len size : Nat) : (split offset len size).length = min len size := by
  unfold split Segments.length
  split
  · simp; omega
  · dsimp only; omega

theorem split_start_lt {size : Nat} (h : 0 < size) (offset len : Nat) :
    (split offset len size).start < size := by
  rw [split, if_neg (by omega)]
  exact Nat.mod_lt _ h

theorem split_start_add_head_le {size : Nat} (h : 0 < size) (offset len : Nat) :
    (split offset len size).start + (split offset len size).head ≤ size := by
  have := Nat.mod_lt offset h
  rw [split, if_neg (by omega)]
  dsimp only
  omega

theorem split_tail_le_start (offset len size : Nat) :
    (split offset len size).tail ≤ (split offset len size).start := by
  unfold split
  split
  · simp
  · dsimp only; omega

/-- A stretch of `len` bytes ends `len` bytes further, a stretch of the whole ring where it
began. -/
theorem stop_split {size : Nat} (h : 0 < size) (offset len : Nat) :
    (split offset len size).stop size = (offset + min len size) % size := by
  have lt := Nat.mod_lt offset h
  rw [← Nat.mod_add_mod offset size (min len size), split, if_neg (by omega), Segments.stop]
  dsimp only
  generalize offset % size = start at lt ⊢
  have room : min len size ≤ size := Nat.min_le_right _ _
  generalize min len size = n at room ⊢
  rcases Nat.le_total n (size - start) with fits | wraps
  · simp [Nat.min_eq_left fits]
  · simp only [Nat.min_eq_right wraps]
    split
    · have : n = size - start := by omega
      rw [this]
    · have : start + n = n - (size - start) + size := by omega
      rw [this, Nat.add_mod_right]

theorem distance_lt {size : Nat} (h : 0 < size) (source target : Nat) :
    distance source target size < size := Nat.mod_lt _ h

theorem distance_self {size : Nat} (offset : Nat) : distance offset offset size = 0 := by
  simp [distance]

/-- Going the distance from an offset leads to the other one. -/
theorem add_distance_mod {size source target : Nat} (hs : source < size) (ht : target < size) :
    (source + distance source target size) % size = target := by
  rw [distance, Nat.add_mod_mod]
  have : source + (target + size - source) = target + size := by omega
  rw [this, Nat.add_mod_right, Nat.mod_eq_of_lt ht]

end Playout
