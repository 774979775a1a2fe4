import Playout.Ring.Buffer
import Playout.Proofs.Ring.Position

/-!
# Writing to a ring, byte by byte

`overlay` is the plain meaning of a write: byte `k` of the data goes to the offset `k` places on,
going round. The two stretches of memory that a ring buffer writes through its lock amount to it
(`write_eq`, `fillSilence_eq`), provided the hardware's buffer is as large as the ring and grants
the lock.

Seen from a position `x` on, less than a lap away, a write at the offset of `y` replaces exactly
the bytes at the positions `y`, `y + 1`, … that it has data for (`getElem?_overlay_mod`).
-/

namespace Playout

/-- The bytes of a ring once `data` is written from `offset` on. -/
def overlay (bytes : List UInt8) (offset : Nat) (data : List UInt8) : List UInt8 :=
  bytes.mapIdx fun i byte =>
    (data[distance (offset % bytes.length) i bytes.length]?).getD byte

@[simp] theorem length_overlay (bytes : List UInt8) (offset : Nat) (data : List UInt8) :
    (overlay bytes offset data).length = bytes.length := by
  simp [overlay]

theorem getElem?_overlay {bytes data : List UInt8} {offset i : Nat} (lt : i < bytes.length) :
    (overlay bytes offset data)[i]?
      = if distance (offset % bytes.length) i bytes.length < data.length then
          data[distance (offset % bytes.length) i bytes.length]?
        else bytes[i]? := by
  rw [overlay, List.getElem?_mapIdx, List.getElem?_eq_getElem lt, Option.map_some]
  split
  · next within => rw [List.getElem?_eq_getElem within, Option.getD_some]
  · next beyond => rw [List.getElem?_eq_none (Nat.not_lt.1 beyond), Option.getD_none]

@[simp] theorem overlay_nil (bytes : List UInt8) (offset : Nat) :
    overlay bytes offset [] = bytes := by
  refine List.ext_getElem? fun i => ?_
  rcases Nat.lt_or_ge i bytes.length with lt | ge
  · rw [getElem?_overlay lt, if_neg (by simp)]
  · rw [List.getElem?_eq_none ge, List.getElem?_eq_none (by simpa using ge)]

/-- The byte at a position less than a lap behind the beginning of a write. -/
theorem getElem?_overlay_mod {bytes : List UInt8} {y x : Nat} (data : List UInt8) (le : y ≤ x)
    (lt : x < y + bytes.length) :
    (overlay bytes (y % bytes.length) data)[x % bytes.length]?
      = if x - y < data.length then data[x - y]? else bytes[x % bytes.length]? := by
  have pos : 0 < bytes.length := by omega
  rw [getElem?_overlay (Nat.mod_lt x pos), Nat.mod_mod, distance_of_lt le lt]

/-- Only a lap of the data lies on the ring. -/
theorem overlay_take (bytes data : List UInt8) (offset : Nat) :
    overlay bytes offset (data.take bytes.length) = overlay bytes offset data := by
  refine List.ext_getElem? fun i => ?_
  rcases (Nat.lt_or_ge i bytes.length).symm with ge | lt
  · rw [List.getElem?_eq_none (by simpa using ge), List.getElem?_eq_none (by simpa using ge)]
  have near := distance_lt (Nat.zero_lt_of_lt lt) (offset % bytes.length) i
  rw [getElem?_overlay lt, getElem?_overlay lt, List.getElem?_take_of_lt near, List.length_take]
  congr 1
  simp only [eq_iff_iff]
  omega

/-! ### Two stretches of memory -/

theorem isEmpty_split_iff {offset len size : Nat} (pos : 0 < size) :
    (split offset len size).isEmpty = true ↔ len = 0 := by
  rw [Segments.isEmpty, beq_iff_eq, length_split]
  omega

/-- A region is granted as it was asked for. -/
theorem split_split {offset len size : Nat} (pos : 0 < size) :
    split (split offset len size).start (split offset len size).length size
      = split offset len size := by
  rw [length_split]
  simp only [split, if_neg (Nat.ne_of_gt pos), Nat.mod_mod, Nat.min_assoc, Nat.min_self]

theorem getElem?_overwrite {bytes data : List UInt8} {offset : Nat}
    (fits : offset + data.length ≤ bytes.length) (i : Nat) :
    (overwrite bytes offset data)[i]?
      = if offset ≤ i ∧ i < offset + data.length then data[i - offset]? else bytes[i]? := by
  have front : (bytes.take offset).length = offset := by
    rw [List.length_take]
    omega
  rw [overwrite, List.append_assoc]
  rcases Nat.lt_or_ge i offset with before | after
  · rw [if_neg (by omega), List.getElem?_append_left (by omega), List.getElem?_take_of_lt before]
  rw [List.getElem?_append_right (by omega), front]
  rcases Nat.lt_or_ge i (offset + data.length) with inside | behind
  · rw [if_pos ⟨after, inside⟩, List.getElem?_append_left (by omega)]
  · rw [if_neg (by omega), List.getElem?_append_right (by omega), List.getElem?_drop]
    congr 1
    omega

/-- From one offset of a ring on to another, with or without going round. -/
theorem distance_eq_ite {size source target : Nat} (hs : source < size) (ht : target < size) :
    distance source target size
      = if source ≤ target then target - source else target + size - source := by
  unfold distance
  split
  · rw [Nat.add_comm, Nat.add_sub_assoc (by omega), Nat.add_mod_left, Nat.mod_eq_of_lt (by omega)]
  · rw [Nat.mod_eq_of_lt (by omega)]

/-- Data cut to the two stretches of a region lies on the ring as if written byte by byte. -/
theorem overwrite_split {bytes data : List UInt8} {len : Nat} (offset : Nat)
    (pos : 0 < bytes.length) (covers : data.length = min len bytes.length) :
    overwrite
        (overwrite bytes (split offset len bytes.length).start
          (data.take (split offset len bytes.length).head))
        0 ((data.drop (split offset len bytes.length).head).take
          (split offset len bytes.length).tail)
      = overlay bytes offset data := by
  have inside := split_start_lt pos offset len
  have hstart : (split offset len bytes.length).start = offset % bytes.length := by
    rw [split, if_neg (Nat.ne_of_gt pos)]
  have hhead : (split offset len bytes.length).head
      = min (min len bytes.length) (bytes.length - offset % bytes.length) := by
    rw [split, if_neg (Nat.ne_of_gt pos)]
  have htail : (split offset len bytes.length).tail
      = min len bytes.length - (split offset len bytes.length).head := by
    rw [split, if_neg (Nat.ne_of_gt pos)]
  rw [hstart] at inside ⊢
  -- From here on the two stretches are lengths that fill the region up.
  generalize (split offset len bytes.length).head = head at *
  generalize (split offset len bytes.length).tail = tail at *
  have lengthHead : (data.take head).length = head := by
    rw [List.length_take]
    omega
  have lengthTail : ((data.drop head).take tail).length = tail := by
    rw [List.length_take, List.length_drop]
    omega
  have fitsHead : offset % bytes.length + (data.take head).length ≤ bytes.length := by omega
  have fitsTail : 0 + ((data.drop head).take tail).length
      ≤ (overwrite bytes (offset % bytes.length) (data.take head)).length := by
    rw [length_overwrite fitsHead]
    omega
  refine List.ext_getElem? fun i => ?_
  rcases (Nat.lt_or_ge i bytes.length).symm with ge | lt
  · rw [List.getElem?_eq_none, List.getElem?_eq_none (by simpa using ge)]
    rw [length_overwrite fitsTail, length_overwrite fitsHead]
    exact ge
  rw [getElem?_overlay lt, getElem?_overwrite fitsTail, getElem?_overwrite fitsHead, lengthTail,
    lengthHead, distance_eq_ite inside lt]
  generalize offset % bytes.length = start at *
  rcases Nat.lt_or_ge i start with before | after
  · -- The second stretch: the write has gone round.
    rw [if_neg (Nat.not_le.2 before)]
    rcases Nat.lt_or_ge i tail with round | behind
    · rw [if_pos (by omega), if_pos (by omega), List.getElem?_take_of_lt (by omega),
        List.getElem?_drop]
      congr 1
      omega
    · rw [if_neg (by omega), if_neg (by omega), if_neg (by omega)]
  · -- The first stretch.
    rw [if_neg (by omega), if_pos after]
    rcases Nat.lt_or_ge i (start + head) with within | behind
    · rw [if_pos (by omega), if_pos (by omega), List.getElem?_take_of_lt (by omega)]
    · rw [if_neg (by omega), if_neg (by omega)]

namespace RingBuffer

/-- The ring with other bytes on it. -/
def withBytes (r : RingBuffer) (bytes : List UInt8) : RingBuffer :=
  { r with buffer := { r.buffer with bytes } }

variable {r : RingBuffer}

/-- A lock that is not armed to fail grants the whole region and changes nothing. -/
theorem lock_eq (unarmed : r.buffer.armed.lock = false) {offset len : Nat}
    (inside : offset < r.buffer.size) :
    r.buffer.lock offset len = (.ok (split offset len r.buffer.size), r.buffer) := by
  have same : { r.buffer.armed with lock := false } = r.buffer.armed := by rw [← unarmed]
  simp only [SoundBuffer.lock, unarmed, same]
  rw [if_neg (by simpa using inside)]

/-- A write that succeeds covers what was asked for, as far as the ring reaches. -/
theorem region_of_write {r' : RingBuffer} {offset : Nat} {data : List UInt8} {region : Segments}
    (written : r.write offset data = (.ok region, r')) :
    region = split offset data.length r.size := by
  unfold write at written
  dsimp only at written
  split at written
  · cases written
    rfl
  split at written
  · cases written
  split at written
  · cases written
    rfl
  · cases written

variable (size_eq : r.buffer.size = r.size) (pos : 0 < r.size)
  (unarmed : r.buffer.armed.lock = false)
include size_eq pos

/-- Data cut to a region and put there lies on the ring as if written byte by byte. -/
theorem put_split {data : List UInt8} {len : Nat} (offset : Nat)
    (covers : data.length = min len r.size) :
    r.buffer.put (split offset len r.size) (data.take (split offset len r.size).head)
        ((data.drop (split offset len r.size).head).take (split offset len r.size).tail)
      = { r.buffer with bytes := overlay r.buffer.bytes offset data } := by
  have length_eq : r.buffer.bytes.length = r.size := size_eq
  rw [SoundBuffer.put, ← length_eq, overwrite_split offset (by omega) (by omega)]

include unarmed

/-- Writing puts the data on the ring byte by byte. -/
theorem write_eq (offset : Nat) (data : List UInt8) :
    r.write offset data
      = (.ok (split offset data.length r.size), r.withBytes (overlay r.buffer.bytes offset data))
      := by
  have covered := length_split offset data.length r.size
  have cut : data.take (split offset data.length r.size).length = data.take r.buffer.bytes.length
      := by
    rw [covered, List.take_eq_take_iff, show r.buffer.bytes.length = r.size from size_eq]
    omega
  unfold write
  dsimp only
  split
  · next empty =>
    have : data = [] := List.eq_nil_of_length_eq_zero ((isEmpty_split_iff pos).1 empty)
    rw [this, overlay_nil, withBytes]
  -- The region that was asked for is granted, and the cut data has its length.
  rw [lock_eq unarmed (by rw [size_eq]; exact split_start_lt pos _ _), size_eq, split_split pos]
  dsimp only
  rw [if_pos, put_split size_eq pos offset, cut, overlay_take, withBytes]
  · rw [List.length_take]
    omega
  · simp only [List.length_take, List.length_drop, covered]
    have : (split offset data.length r.size).head + (split offset data.length r.size).tail
        = min data.length r.size := covered
    omega

/-- Silencing puts silence on the ring byte by byte. -/
theorem fillSilence_eq (offset len : Nat) :
    r.fillSilence offset len
      = (.ok (split offset len r.size),
        r.withBytes (overlay r.buffer.bytes offset (List.replicate len r.silence))) := by
  have covered := length_split offset len r.size
  unfold fillSilence
  dsimp only
  split
  · next empty =>
    rw [(isEmpty_split_iff pos).1 empty, List.replicate_zero, overlay_nil, withBytes]
  rw [lock_eq unarmed (by rw [size_eq]; exact split_start_lt pos _ _), size_eq, split_split pos]
  dsimp only
  have parts : (split offset len r.size).head + (split offset len r.size).tail = min len r.size :=
    covered
  have head : List.replicate (split offset len r.size).head r.silence
      = (List.replicate (min len r.size) r.silence).take (split offset len r.size).head := by
    rw [List.take_replicate]
    congr 1
    omega
  have tail : List.replicate (split offset len r.size).tail r.silence
      = ((List.replicate (min len r.size) r.silence).drop (split offset len r.size).head).take
        (split offset len r.size).tail := by
    rw [List.drop_replicate, List.take_replicate]
    congr 1
    omega
  have lap : List.replicate (min len r.size) r.silence
      = (List.replicate len r.silence).take r.buffer.bytes.length := by
    rw [List.take_replicate, show r.buffer.bytes.length = r.size from size_eq, Nat.min_comm]
  rw [head, tail, put_split size_eq pos offset (by simp), lap, overlay_take, withBytes]

/-- Silencing the whole ring leaves nothing but silence. -/
theorem clear_eq :
    r.clear = (.ok (), r.withBytes (List.replicate r.size r.silence)) := by
  have length_eq : r.buffer.bytes.length = r.size := size_eq
  rw [clear, fillSilence_eq size_eq pos unarmed]
  dsimp only
  have : overlay r.buffer.bytes 0 (List.replicate r.size r.silence)
      = List.replicate r.size r.silence := by
    refine List.ext_getElem? fun i => ?_
    rcases (Nat.lt_or_ge i r.size).symm with ge | lt
    · rw [List.getElem?_eq_none (by simpa [length_eq] using ge),
        List.getElem?_eq_none (by simpa using ge)]
    have near := distance_lt pos (0 % r.size) i
    rw [getElem?_overlay (by omega), length_eq, List.length_replicate, if_pos near,
      List.getElem?_replicate_of_lt near, List.getElem?_replicate_of_lt lt]
  rw [this]

end RingBuffer

end Playout
