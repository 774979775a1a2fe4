import Playout.Proofs.Ring.Overlay

/-!
# Exactly what is written

A ring buffer cuts its data to the two stretches of a region, and its hardware cuts the memory that
holds the ring to the stretches that it grants. Here is what comes of it, byte by byte
(`RingBuffer.puts_exactly`): either the lock is refused, and nothing is written, or byte `k` of the
data is at the offset `k` places on, as far as a lap reaches, and every other byte is as it was.

## Design points

* **Cutting is checked.** `slice?` gives nothing where a stretch is not all there. `write?` and
  `fillSilence?` cut that way and always have an answer, the one of `write` and `fillSilence`.
* **Offsets are listed.** A region covers the offsets of its first stretch and then those of its
  second one; `Segments.Covers` compares that list with the offsets from the first one on.
-/

namespace Playout

/-! ### The offsets of a region -/

namespace Segments

/-- The offsets of the first stretch. -/
def first (s : Segments) : List Nat := List.range' s.start s.head

/-- The offsets of the second stretch, which begins where the memory does. -/
def second (s : Segments) : List Nat := List.range s.tail

/-- `s` are the `count` bytes from `offset` on, going round a ring of `size`. -/
structure Covers (s : Segments) (offset count size : Nat) : Prop where
  first_inside : s.start + s.head ≤ size
  second_inside : s.tail ≤ size
  disjoint : ∀ i ∈ s.first, i ∉ s.second
  offsets_eq : s.first ++ s.second = (List.range count).map fun k => (offset + k) % size
  stop_eq : s.stop? size = .ok ((offset + count) % size)

end Segments

variable {size : Nat}

theorem not_mem_second_of_mem_first (offset len : Nat) :
    ∀ i ∈ (split offset len size).first, i ∉ (split offset len size).second := by
  intro i inFirst inSecond
  have apart := split_tail_le_start offset len size
  simp only [Segments.first, Segments.second, List.mem_range'_1, List.mem_range] at inFirst inSecond
  omega

/-- The two stretches list the offsets from the first one on. -/
theorem first_append_second (pos : 0 < size) (offset len : Nat) :
    (split offset len size).first ++ (split offset len size).second
      = (List.range (min len size)).map fun k => (offset + k) % size := by
  have start_lt := Nat.mod_lt offset pos
  simp only [Segments.first, Segments.second, split, if_neg (Nat.ne_of_gt pos)]
  simp only [← Nat.mod_add_mod offset size]
  have room : min len size ≤ size := Nat.min_le_right len size
  generalize offset % size = start at start_lt ⊢
  generalize min len size = count at room ⊢
  have parts : count = min count (size - start) + (count - min count (size - start)) := by omega
  conv => rhs; rw [parts, List.range_add, List.map_append, List.map_map]
  congr 1
  · rw [List.range'_eq_map_range]
    refine List.map_congr_left fun k within => ?_
    rw [Nat.mod_eq_of_lt (by have := List.mem_range.1 within; omega)]
  · -- Behind the end of the memory the row goes on at its beginning.
    refine (List.map_id _).symm.trans (List.map_congr_left fun k within => ?_)
    have beyond := List.mem_range.1 within
    have lap : start + (min count (size - start) + k) = k + size := by omega
    rw [Function.comp_apply, lap, Nat.add_mod_right, Nat.mod_eq_of_lt (by omega), id]

theorem covers_split (pos : 0 < size) (offset len : Nat) :
    (split offset len size).Covers offset (min len size) size where
  first_inside := split_start_add_head_le pos offset len
  second_inside := by
    have before := split_tail_le_start offset len size
    have inside := split_start_lt pos offset len
    omega
  disjoint := not_mem_second_of_mem_first offset len
  offsets_eq := first_append_second pos offset len
  stop_eq := by rw [Segments.stop?, if_neg (Nat.ne_of_gt pos), stop_split pos]

/-! ### Bytes written from an offset on -/

/-- The bytes `after` are those `before` with `data` written from `offset` on, byte by byte and
going round, as far as a lap reaches. -/
structure WrittenFrom (before : List UInt8) (offset : Nat) (data after : List UInt8) : Prop where
  length_eq : after.length = before.length
  covered : ∀ k < min data.length before.length,
    after[(offset + k) % before.length]? = data[k]?
  kept : ∀ i, (∀ k < min data.length before.length, (offset + k) % before.length ≠ i) →
    after[i]? = before[i]?

theorem writtenFrom_overlay (bytes : List UInt8) (offset : Nat) (data : List UInt8) :
    WrittenFrom bytes offset data (overlay bytes offset data) where
  length_eq := length_overlay bytes offset data
  covered := by
    intro k within
    have lt : (offset + k) % bytes.length < bytes.length := Nat.mod_lt _ (by omega)
    rw [getElem?_overlay lt, distance_of_lt (Nat.le_add_right offset k) (by omega),
      Nat.add_sub_cancel_left, if_pos (by omega)]
  kept := by
    intro i apart
    rcases (Nat.lt_or_ge i bytes.length).symm with ge | lt
    · rw [List.getElem?_eq_none ge, List.getElem?_eq_none (by simpa using ge)]
    have pos := Nat.zero_lt_of_lt lt
    have near := distance_lt pos (offset % bytes.length) i
    rw [getElem?_overlay lt, if_neg]
    intro covered
    apply apart (distance (offset % bytes.length) i bytes.length) (by omega)
    rw [← Nat.mod_add_mod, add_distance_mod (Nat.mod_lt offset pos) lt]

/-! ### Checked cuts -/

/-- The bytes from `start` up to `stop`; none unless they are all there. -/
def slice? (bytes : List UInt8) (start stop : Nat) : Option (List UInt8) :=
  if start ≤ stop ∧ stop ≤ bytes.length then some ((bytes.take stop).drop start) else none

theorem slice?_of_le {bytes : List UInt8} {start stop : Nat} (le : start ≤ stop)
    (inside : stop ≤ bytes.length) :
    slice? bytes start stop = some ((bytes.take stop).drop start) := if_pos ⟨le, inside⟩

/-- A stretch of memory with `count` bytes of `data`, those from `start` on, copied to its
beginning; nothing unless that many are on both sides. -/
def copyPart? (stretch data : List UInt8) (start count : Nat) : Option (List UInt8) := do
  let replaced ← slice? stretch 0 count
  let part ← slice? data start (start + count)
  if replaced.length = part.length then return part ++ stretch.drop count else none

theorem copyPart?_of_le {stretch : List UInt8} (data : List UInt8) (start : Nat) {count : Nat}
    (room : count ≤ stretch.length) (there : start + count ≤ data.length) :
    copyPart? stretch data start count
      = some ((data.drop start).take count ++ stretch.drop count) := by
  have part : (data.take (start + count)).drop start = (data.drop start).take count := by
    rw [List.drop_take, Nat.add_sub_cancel_left]
  have same : (stretch.take count).length = ((data.drop start).take count).length := by
    simp only [List.length_take, List.length_drop]
    omega
  simp [copyPart?, slice?_of_le (Nat.zero_le count) room, slice?_of_le (Nat.le_add_right ..) there,
    part, same]

/-- Copies `data` to two stretches, as far as each of them reaches, and counts what was copied. -/
def copyTo? (data first second : List UInt8) : Option (Nat × List UInt8 × List UInt8) := do
  let head := min first.length data.length
  let front ← copyPart? first data 0 head
  let tail := min second.length (data.length - head)
  let back ← copyPart? second data head tail
  return (head + tail, front, back)

/-- Fills two stretches with one byte. -/
def fillWith? (byte : UInt8) (first second : List UInt8) :
    Option (Unit × List UInt8 × List UInt8) :=
  some ((), List.replicate first.length byte, List.replicate second.length byte)

/-- Cuts the two stretches of a region out of the memory, the second one from what lies before the
start of the first, and puts back what `use` makes of them. -/
def grant? {α : Type} (bytes : List UInt8) (region : Segments)
    (use : (first second : List UInt8) → Option (α × List UInt8 × List UInt8)) :
    Option (α × List UInt8) := do
  let before ← slice? bytes 0 region.start
  let behind ← slice? bytes region.start bytes.length
  let second ← slice? before 0 region.tail
  let first ← slice? behind 0 region.head
  let (found, first, second) ← use first second
  return (found, second ++ before.drop region.tail ++ first ++ behind.drop region.head)

theorem drop_take_append_drop (bytes : List UInt8) {m n : Nat} (le : m ≤ n) :
    (bytes.take n).drop m ++ bytes.drop n = bytes.drop m := by
  obtain ⟨k, rfl⟩ := Nat.exists_eq_add_of_le le
  rw [List.drop_take, Nat.add_sub_cancel_left, ← List.drop_drop, List.take_append_drop]

section Granted

variable {bytes : List UInt8} {region : Segments}
  (inside : region.start + region.head ≤ bytes.length) (apart : region.tail ≤ region.start)
include inside apart

theorem grant?_eq {α : Type}
    (use : (first second : List UInt8) → Option (α × List UInt8 × List UInt8)) :
    grant? bytes region use
      = (use ((bytes.drop region.start).take region.head) (bytes.take region.tail)).map
        fun (found, first, second) =>
          (found, second ++ (bytes.take region.start).drop region.tail ++ first
            ++ bytes.drop (region.start + region.head)) := by
  have cut : (bytes.take region.start).take region.tail = bytes.take region.tail := by
    rw [List.take_take, Nat.min_eq_left apart]
  have there : region.tail ≤ (bytes.take region.start).length := by
    rw [List.length_take]
    omega
  have behind : region.head ≤ (bytes.drop region.start).length := by
    rw [List.length_drop]
    omega
  simp only [grant?, slice?_of_le (Nat.zero_le _) (Nat.le_of_add_right_le inside),
    slice?_of_le (Nat.le_of_add_right_le inside) (Nat.le_refl _), List.take_length,
    Option.bind_eq_bind, Option.bind_some, List.drop_zero, slice?_of_le (Nat.zero_le _) there,
    slice?_of_le (Nat.zero_le _) behind, cut, List.drop_drop]
  cases use ((bytes.drop region.start).take region.head) (bytes.take region.tail) <;> rfl

/-- What is put back makes up the memory with the two pieces over what stood there. -/
theorem overwrite_eq_append {head tail : List UInt8} (fitsHead : head.length ≤ region.head)
    (fitsTail : tail.length ≤ region.tail) :
    tail ++ (bytes.take region.tail).drop tail.length ++ (bytes.take region.start).drop region.tail
        ++ (head ++ ((bytes.drop region.start).take region.head).drop head.length)
        ++ bytes.drop (region.start + region.head)
      = overwrite (overwrite bytes region.start head) 0 tail := by
  have before : (bytes.take region.tail).drop tail.length
        ++ (bytes.take region.start).drop region.tail
      = (bytes.take region.start).drop tail.length := by
    rw [← drop_take_append_drop (bytes.take region.start) fitsTail, List.take_take,
      Nat.min_eq_left apart]
  have behind : ((bytes.drop region.start).take region.head).drop head.length
        ++ bytes.drop (region.start + region.head)
      = bytes.drop (region.start + head.length) := by
    rw [← List.drop_drop, drop_take_append_drop _ fitsHead, List.drop_drop]
  have there : tail.length ≤ (bytes.take region.start).length := by
    rw [List.length_take]
    omega
  calc tail ++ (bytes.take region.tail).drop tail.length
          ++ (bytes.take region.start).drop region.tail
          ++ (head ++ ((bytes.drop region.start).take region.head).drop head.length)
          ++ bytes.drop (region.start + region.head)
      = tail ++ ((bytes.take region.tail).drop tail.length
          ++ (bytes.take region.start).drop region.tail)
          ++ (head ++ (((bytes.drop region.start).take region.head).drop head.length
            ++ bytes.drop (region.start + region.head))) := by simp only [List.append_assoc]
    _ = tail ++ (bytes.take region.start ++ (head ++ bytes.drop (region.start + head.length))).drop
          tail.length := by
        rw [before, behind, List.drop_append_of_le_length there, List.append_assoc]
    _ = overwrite (overwrite bytes region.start head) 0 tail := by
        simp [overwrite]

theorem length_stretches :
    ((bytes.drop region.start).take region.head).length = region.head
      ∧ (bytes.take region.tail).length = region.tail := by
  simp only [List.length_take, List.length_drop]
  omega

theorem grant?_copyTo? (data : List UInt8) :
    grant? bytes region (copyTo? data)
      = some ((data.take region.head).length + ((data.drop region.head).take region.tail).length,
          overwrite (overwrite bytes region.start (data.take region.head)) 0
            ((data.drop region.head).take region.tail)) := by
  obtain ⟨first, second⟩ := length_stretches inside apart
  rw [grant?_eq inside apart, ← overwrite_eq_append inside apart (List.length_take_le _ _)
    (List.length_take_le _ _)]
  have headRoom : min region.head data.length
      ≤ ((bytes.drop region.start).take region.head).length := by
    omega
  have tailRoom : min region.tail (data.length - min region.head data.length)
      ≤ (bytes.take region.tail).length := by
    omega
  have front := copyPart?_of_le data 0 headRoom (by omega)
  have back := copyPart?_of_le data (min region.head data.length) tailRoom (by omega)
  have head : data.take (min region.head data.length) = data.take region.head := by
    rw [List.take_eq_take_iff]
    omega
  have tail : (data.drop (min region.head data.length)).take
        (min region.tail (data.length - min region.head data.length))
      = (data.drop region.head).take region.tail := by
    rcases Nat.le_total region.head data.length with more | less
    · rw [Nat.min_eq_left more, List.take_eq_take_iff, List.length_drop]
      omega
    · rw [Nat.min_eq_right less, List.drop_eq_nil_of_le (Nat.le_refl _),
        List.drop_eq_nil_of_le less, List.take_nil, List.take_nil]
  rw [List.drop_zero, head] at front
  rw [tail] at back
  simp [copyTo?, first, second, front, back]
  omega

theorem grant?_fillWith? (byte : UInt8) :
    grant? bytes region (fillWith? byte)
      = some ((), overwrite (overwrite bytes region.start (List.replicate region.head byte)) 0
          (List.replicate region.tail byte)) := by
  obtain ⟨first, second⟩ := length_stretches inside apart
  rw [grant?_eq inside apart, ← overwrite_eq_append inside apart (by simp) (by simp)]
  simp [fillWith?, first, second]

end Granted

/-- A lock that is granted is granted in full, and nothing has been written by then. -/
theorem SoundBuffer.lock_ok_inv {b b' : SoundBuffer} {offset len : Nat} {granted : Segments}
    (locked : b.lock offset len = (.ok granted, b')) :
    granted = split offset len b.size ∧ 0 < b.size ∧ b'.bytes = b.bytes := by
  unfold lock at locked
  split at locked
  · cases locked
  · next free =>
    cases locked
    exact ⟨rfl, by omega, rfl⟩

namespace RingBuffer

/-- `write` with checked cuts. -/
def write? (r : RingBuffer) (offset : Nat) (data : List UInt8) :
    Option (Except TransportError Segments × RingBuffer) := do
  let region := split offset data.length r.size
  if region.isEmpty then return (.ok region, r)
  let data ← slice? data 0 region.length
  match r.buffer.lock region.start region.length with
  | (.error e, buffer) => return (.error e, { r with buffer })
  | (.ok granted, buffer) =>
    let (copied, bytes) ← grant? buffer.bytes granted (copyTo? data)
    let r := { r with buffer := { buffer with bytes } }
    if copied = region.length then return (.ok region, r)
    return (.error (.lockFailed region.start region.length), r)

/-- `fillSilence` with checked cuts. -/
def fillSilence? (r : RingBuffer) (offset len : Nat) :
    Option (Except TransportError Segments × RingBuffer) := do
  let region := split offset len r.size
  if region.isEmpty then return (.ok region, r)
  match r.buffer.lock region.start region.length with
  | (.error e, buffer) => return (.error e, { r with buffer })
  | (.ok granted, buffer) =>
    let (_, bytes) ← grant? buffer.bytes granted (fillWith? r.silence)
    return (.ok region, { r with buffer := { buffer with bytes } })

/-- Writing never cuts beyond an end, whatever the buffer under the ring. -/
theorem write?_eq (r : RingBuffer) (offset : Nat) (data : List UInt8) :
    r.write? offset data = some (r.write offset data) := by
  unfold write? write
  dsimp only
  split
  · rfl
  have there : (split offset data.length r.size).length ≤ data.length := by
    rw [length_split]
    omega
  rw [slice?_of_le (Nat.zero_le _) there, List.drop_zero]
  rcases locked : r.buffer.lock (split offset data.length r.size).start
    (split offset data.length r.size).length with ⟨e | granted, buffer⟩
  · rfl
  obtain ⟨rfl, pos, same⟩ := SoundBuffer.lock_ok_inv locked
  simp only [Option.bind_eq_bind, Option.bind_some]
  rw [grant?_copyTo? (same ▸ split_start_add_head_le pos _ _) (split_tail_le_start _ _ _)]
  exact (apply_ite some _ _ _).symm

/-- Silencing never does either. -/
theorem fillSilence?_eq (r : RingBuffer) (offset len : Nat) :
    r.fillSilence? offset len = some (r.fillSilence offset len) := by
  unfold fillSilence? fillSilence
  dsimp only
  split
  · rfl
  rcases locked : r.buffer.lock (split offset len r.size).start
    (split offset len r.size).length with ⟨e | granted, buffer⟩
  · rfl
  obtain ⟨rfl, pos, same⟩ := SoundBuffer.lock_ok_inv locked
  simp only [Option.bind_eq_bind]
  rw [grant?_fillWith? (same ▸ split_start_add_head_le pos _ _) (split_tail_le_start _ _ _)]
  rfl

/-! ### Refused and granted -/

/-- The ring once the failure that waited for its next lock is used up. -/
def lockSpent (r : RingBuffer) : RingBuffer :=
  { r with buffer := { r.buffer with armed := { r.buffer.armed with lock := false } } }

/-- What putting `data` on a ring from `offset` on comes to: a refusal if there is something to
write and the next lock is bound to fail, and otherwise every byte of the data, as far as a lap
reaches, and no other. -/
inductive Puts (r : RingBuffer) (offset : Nat) (data : List UInt8) :
    Except TransportError Segments × RingBuffer → Prop
  | refused (armed : r.buffer.armed.lock = true) (nonempty : data ≠ []) :
    Puts r offset data
      (.error (.lockFailed (offset % r.size) (min data.length r.size)), r.lockSpent)
  | written {region : Segments} {bytes : List UInt8}
    (granted : r.buffer.armed.lock = true → data = [])
    (covers : region.Covers offset (min data.length r.size) r.size)
    (written : WrittenFrom r.buffer.bytes offset data bytes) :
    Puts r offset data (.ok region, r.withBytes bytes)

variable {r : RingBuffer}

theorem lock_of_armed (armed : r.buffer.armed.lock = true) (offset len : Nat) :
    r.buffer.lock offset len = (.error (.lockFailed offset len), r.lockSpent.buffer) := by
  simp [SoundBuffer.lock, armed, lockSpent]

section Held

variable (pos : 0 < r.size)
include pos

theorem start_split (offset len : Nat) : (split offset len r.size).start = offset % r.size := by
  rw [split, if_neg (Nat.ne_of_gt pos)]

variable (size_eq : r.buffer.size = r.size)
include size_eq

/-- Writing is refused only where there is something to write, and leaves every byte then. -/
theorem write_eq_ite (offset : Nat) (data : List UInt8) :
    r.write offset data
      = if r.buffer.armed.lock = true ∧ data ≠ [] then
          (.error (.lockFailed (offset % r.size) (min data.length r.size)), r.lockSpent)
        else (.ok (split offset data.length r.size),
          r.withBytes (overlay r.buffer.bytes offset data)) := by
  by_cases armed : r.buffer.armed.lock = true
  · unfold write
    dsimp only
    rw [lock_of_armed armed, start_split pos, length_split]
    by_cases empty : data = []
    · simp [empty, (isEmpty_split_iff pos).2, withBytes]
    · simp [empty, armed, isEmpty_split_iff pos, lockSpent]
  · rw [if_neg fun refused => armed refused.1,
      write_eq size_eq pos (eq_false_of_ne_true armed)]

/-- Silencing writes silence. -/
theorem fillSilence_eq_write (offset len : Nat) :
    r.fillSilence offset len = r.write offset (List.replicate len r.silence) := by
  by_cases armed : r.buffer.armed.lock = true
  · simp [fillSilence, write, lock_of_armed armed]
  · have unarmed := eq_false_of_ne_true armed
    rw [fillSilence_eq size_eq pos unarmed, write_eq size_eq pos unarmed, List.length_replicate]

theorem puts_write (offset : Nat) (data : List UInt8) :
    r.Puts offset data (r.write offset data) := by
  rw [write_eq_ite pos size_eq]
  split
  · next refused => exact .refused refused.1 refused.2
  · next free =>
    refine .written ?_ (covers_split pos offset data.length) (writtenFrom_overlay _ offset data)
    simpa using free

theorem puts_fillSilence (offset len : Nat) :
    r.Puts offset (List.replicate len r.silence) (r.fillSilence offset len) := by
  rw [fillSilence_eq_write pos size_eq]
  exact puts_write pos size_eq offset _

end Held

/-- On a ring that its buffer holds, data and silence are put exactly where they belong, and no
stretch is ever cut beyond the end of what it is cut from. -/
theorem puts_exactly (pos : 0 < r.size) (size_eq : r.buffer.size = r.size) :
    (∀ offset data, r.write? offset data = some (r.write offset data)
        ∧ r.Puts offset data (r.write offset data))
      ∧ ∀ offset len, r.fillSilence? offset len = some (r.fillSilence offset len)
        ∧ r.Puts offset (List.replicate len r.silence) (r.fillSilence offset len) := by
  constructor
  · intro offset data
    exact ⟨write?_eq r offset data, puts_write pos size_eq offset data⟩
  · intro offset len
    exact ⟨fillSilence?_eq r offset len, puts_fillSilence pos size_eq offset len⟩

/-- Ten bytes on a ring of eight, from its last but one on, and silence over three of them. -/
theorem puts_exactly_over_the_end :
    let buffer : SoundBuffer :=
      { config := {}, bytes := [9, 9, 9, 9, 9, 9, 9, 9], blockAlign := 1, frequency := 8000 }
    let r : RingBuffer := { buffer, size := 8, silence := 0x80 }
    0 < r.size ∧ r.buffer.size = r.size
      ∧ r.Puts 6 [1, 2, 3, 4, 5, 6, 7, 8, 10, 11]
        (.ok ⟨6, 2, 6⟩, r.withBytes [3, 4, 5, 6, 7, 8, 1, 2])
      ∧ r.Puts 15 [0x80, 0x80, 0x80]
        (.ok ⟨7, 1, 2⟩, r.withBytes [0x80, 0x80, 9, 9, 9, 9, 9, 0x80]) := by
  intro buffer r
  have exact := puts_exactly (r := r) (by decide) (by decide)
  have written : overlay r.buffer.bytes 6 [1, 2, 3, 4, 5, 6, 7, 8, 10, 11]
      = [3, 4, 5, 6, 7, 8, 1, 2] := by decide
  have silenced : overlay r.buffer.bytes 15 (List.replicate 3 r.silence)
      = [0x80, 0x80, 9, 9, 9, 9, 9, 0x80] := by decide
  have region : split 15 3 r.size = ⟨7, 1, 2⟩ := by decide
  refine ⟨by decide, by decide, ?_, ?_⟩
  · have puts := (exact.1 6 [1, 2, 3, 4, 5, 6, 7, 8, 10, 11]).2
    rwa [write_eq (by decide) (by decide) rfl, written] at puts
  · have puts := (exact.2 15 3).2
    rwa [fillSilence_eq (by decide) (by decide) rfl, silenced, region] at puts

end RingBuffer

end Playout
