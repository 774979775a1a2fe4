import Mathlib.Data.List.Rotate
import Playout.Proofs.Ring.Writing

/-!
# Turning a ring

Where the memory of a ring begins is an accident. `turn k` moves everything on a ring `k` offsets
on, going round: its bytes, the cursors of the hardware, and the offsets that are handed in. Every
operation on a turned ring does what it does on the ring itself, turned.

## Design points

* **The hardware has played `k` bytes more.** That moves the cursors of either mode: those that
  stand somewhere, and those that follow from the time since an anchor.
* **Failures and regions are turned too,** since they name offsets. `carry` turns both sides of an
  answer. Only silencing the whole ring names an offset that was not handed in: it begins at the
  first one, turned or not.
-/

namespace Playout

/-- An answer with `f` done to what was found, and `g` to why nothing was. -/
def carry {α β ε δ : Type} (f : α → β) (g : ε → δ) : Except ε α → Except δ β
  | .ok a => .ok (f a)
  | .error e => .error (g e)

/-! ### Distances -/

/-- Two offsets that are turned are as far apart as before. -/
theorem distance_turn {size source : Nat} (hs : source < size) (target k : Nat) :
    distance ((source + k) % size) ((target + k) % size) size = distance source target size := by
  have pos := Nat.zero_lt_of_lt hs
  have lap : (target + k) % size = (target + size + k) % size := by
    rw [Nat.add_right_comm, Nat.add_mod_right]
  rw [lap, distance_mod pos (by omega), Nat.add_sub_add_right]
  rfl

/-- Turning keeps different offsets apart. -/
theorem turn_injective {size x y : Nat} (hx : x < size) (hy : y < size) {k : Nat}
    (same : (x + k) % size = (y + k) % size) : x = y := by
  have near := distance_turn hx y k
  rw [same, distance_self, distance_eq_ite hx hy] at near
  split at near <;> omega

/-- Every offset is another one turned. -/
theorem exists_turn_eq {size j : Nat} (lt : j < size) (k : Nat) :
    ∃ i < size, (i + k) % size = j := by
  have pos := Nat.zero_lt_of_lt lt
  refine ⟨distance (k % size) j size, distance_lt pos _ _, ?_⟩
  rw [Nat.add_comm, ← Nat.mod_add_mod, add_distance_mod (Nat.mod_lt k pos) lt]

/-! ### Bytes -/

/-- The bytes of a ring, each `k` offsets further on. -/
def turnBytes (k : Nat) (bytes : List UInt8) : List UInt8 :=
  bytes.rotate (bytes.length - k % bytes.length)

@[simp] theorem length_turnBytes (k : Nat) (bytes : List UInt8) :
    (turnBytes k bytes).length = bytes.length := List.length_rotate ..

theorem getElem?_turnBytes {bytes : List UInt8} {i : Nat} (lt : i < bytes.length) (k : Nat) :
    (turnBytes k bytes)[(i + k) % bytes.length]? = bytes[i]? := by
  have pos := Nat.zero_lt_of_lt lt
  have part := Nat.mod_lt k pos
  have laps := Nat.div_add_mod k bytes.length
  have back : i + k + (bytes.length - k % bytes.length)
      = i + bytes.length * (k / bytes.length + 1) := by
    rw [Nat.mul_add]
    omega
  rw [turnBytes, List.getElem?_rotate (Nat.mod_lt _ pos), Nat.mod_add_mod, back,
    Nat.add_mul_mod_self_left, Nat.mod_eq_of_lt lt]

@[simp] theorem turnBytes_replicate (k n : Nat) (byte : UInt8) :
    turnBytes k (List.replicate n byte) = List.replicate n byte := List.rotate_replicate ..

/-- Two rings are the same if they are at all turned offsets. -/
theorem eq_of_turned {xs ys : List UInt8} (length_eq : xs.length = ys.length) (k : Nat)
    (same : ∀ i < ys.length, xs[(i + k) % ys.length]? = ys[(i + k) % ys.length]?) : xs = ys := by
  refine List.ext_getElem? fun j => ?_
  rcases (Nat.lt_or_ge j ys.length).symm with ge | lt
  · rw [List.getElem?_eq_none ge, List.getElem?_eq_none (by omega)]
  · obtain ⟨i, within, rfl⟩ := exists_turn_eq lt k
    exact same i within

/-- Writing at a turned offset of a turned ring. -/
theorem overlay_turn (bytes : List UInt8) (offset : Nat) (data : List UInt8) (k : Nat) :
    overlay (turnBytes k bytes) ((offset + k) % bytes.length) data
      = turnBytes k (overlay bytes offset data) := by
  refine eq_of_turned (by simp) k ?_
  rw [length_turnBytes, length_overlay]
  intro i lt
  have pos := Nat.zero_lt_of_lt lt
  have turned : (i + k) % bytes.length < (turnBytes k bytes).length := by
    rw [length_turnBytes]
    exact Nat.mod_lt _ pos
  have within : i < (overlay bytes offset data).length := by simpa using lt
  have written := getElem?_turnBytes within k
  rw [length_overlay] at written
  rw [written, getElem?_overlay lt, getElem?_overlay turned, length_turnBytes, Nat.mod_mod,
    ← Nat.mod_add_mod offset, distance_turn (Nat.mod_lt offset pos), getElem?_turnBytes lt]

/-! ### The hardware -/

/-- A place of the cursors, turned. -/
def Cursor.turn (k size : Nat) (c : Cursor) : Cursor where
  play := (c.play + k) % size
  write := (c.write + k) % size

/-- The region of as many bytes from the turned start on. -/
def Segments.turn (k size : Nat) (s : Segments) : Segments := split (s.start + k) s.length size

/-- A refusal of the turned hardware. -/
def TransportError.turn (k size : Nat) : TransportError → TransportError
  | lockFailed offset len => lockFailed ((offset + k) % size) len
  | e => e

theorem turn_split {size : Nat} (pos : 0 < size) (offset len k : Nat) :
    (split offset len size).turn k size = split ((offset + k) % size) len size := by
  have start : (split offset len size).start = offset % size := by
    rw [split, if_neg (Nat.ne_of_gt pos)]
  rw [Segments.turn, length_split, start]
  simp only [split, if_neg (Nat.ne_of_gt pos), Nat.mod_add_mod, Nat.mod_mod, Nat.min_assoc,
    Nat.min_self]

namespace SoundBuffer

/-- The buffer with everything on it moved on, as if it had played `k` bytes more. -/
def turn (k : Nat) (b : SoundBuffer) : SoundBuffer :=
  { b with
    bytes := turnBytes k b.bytes
    playAt := (b.playAt + k) % b.size
    writeAt := (b.writeAt + k) % b.size
    consumed := b.consumed + k
    anchor := b.anchor.map fun anchor => { anchor with base := anchor.base + k } }

@[simp] theorem size_turn (k : Nat) (b : SoundBuffer) : (b.turn k).size = b.size :=
  length_turnBytes k b.bytes

theorem position_turn (k : Nat) (b : SoundBuffer) :
    (b.turn k).position = b.position.turn k b.size := by
  have lead : (b.turn k).leadBytes = b.leadBytes := by
    rw [leadBytes, size_turn]
    rfl
  have config : (b.turn k).config = b.config := rfl
  have anchor : (b.turn k).anchor
      = b.anchor.map fun anchor => { anchor with base := anchor.base + k } := rfl
  simp only [position, config, anchor, lead, size_turn]
  cases b.config.mode with
  | manual => rfl
  | realtime =>
    cases b.anchor with
    | none => rfl
    | some anchor =>
      -- The time since the anchor is the same, and what was played before it is `k` bytes more.
      have played : (b.turn k).playedSince { anchor with base := anchor.base + k }
          = b.playedSince anchor + k := Nat.add_right_comm ..
      simp only [Option.map_some, played, Cursor.turn, Nat.mod_add_mod, Nat.add_right_comm]

end SoundBuffer

namespace RingBuffer

/-- The ring with everything on it moved on. -/
def turn (k : Nat) (r : RingBuffer) : RingBuffer := { r with buffer := r.buffer.turn k }

variable {r : RingBuffer}

@[simp] theorem size_turn (k : Nat) (r : RingBuffer) : (r.turn k).size = r.size := rfl

@[simp] theorem silence_turn (k : Nat) (r : RingBuffer) : (r.turn k).silence = r.silence := rfl

@[simp] theorem armed_turn (k : Nat) (r : RingBuffer) :
    (r.turn k).buffer.armed = r.buffer.armed := rfl

@[simp] theorem bytes_turn (k : Nat) (r : RingBuffer) :
    (r.turn k).buffer.bytes = turnBytes k r.buffer.bytes := rfl

@[simp] theorem lockSpent_turn (k : Nat) (r : RingBuffer) :
    (r.turn k).lockSpent = r.lockSpent.turn k := rfl

theorem withBytes_turn {bytes : List UInt8} (length_eq : bytes.length = r.buffer.size) (k : Nat) :
    (r.turn k).withBytes (turnBytes k bytes) = (r.withBytes bytes).turn k := by
  simp only [turn, withBytes, SoundBuffer.turn, SoundBuffer.size, length_eq]

theorem buffer_size_turn (size_eq : r.buffer.size = r.size) (k : Nat) :
    (r.turn k).buffer.size = (r.turn k).size :=
  (r.buffer.size_turn k).trans size_eq

variable (pos : 0 < r.size) (size_eq : r.buffer.size = r.size)
include pos size_eq

theorem write_turn (offset : Nat) (data : List UInt8) (k : Nat) :
    (r.turn k).write ((offset + k) % r.size) data
      = (r.write offset data).map (carry (Segments.turn k r.size) (TransportError.turn k r.size))
        (turn k) := by
  have length_eq : r.buffer.bytes.length = r.size := size_eq
  have size_eq' := buffer_size_turn size_eq k
  have written := overlay_turn r.buffer.bytes offset data k
  rw [length_eq] at written
  rw [write_eq_ite pos size_eq, write_eq_ite (r := r.turn k) pos size_eq', armed_turn]
  split
  · simp [carry, TransportError.turn]
  · rw [bytes_turn, written, withBytes_turn (length_overlay ..), size_turn, ← turn_split pos]
    rfl

theorem fillSilence_turn (offset len k : Nat) :
    (r.turn k).fillSilence ((offset + k) % r.size) len
      = (r.fillSilence offset len).map
        (carry (Segments.turn k r.size) (TransportError.turn k r.size)) (turn k) := by
  have size_eq' := buffer_size_turn size_eq k
  rw [fillSilence_eq_write pos size_eq, fillSilence_eq_write (r := r.turn k) pos size_eq',
    silence_turn, write_turn pos size_eq]

theorem clear_of_armed (armed : r.buffer.armed.lock = true) :
    r.clear = (.error (.lockFailed 0 r.size), r.lockSpent) := by
  have refused : r.buffer.armed.lock = true ∧ List.replicate r.size r.silence ≠ [] := by
    simpa [armed] using Nat.ne_of_gt pos
  rw [clear, fillSilence_eq_write pos size_eq, write_eq_ite pos size_eq, if_pos refused]
  simp

/-- Silencing the whole ring begins at the first offset of the memory, whatever was turned. -/
theorem clear_turn (k : Nat) : (r.turn k).clear = r.clear.map id (turn k) := by
  have size_eq' := buffer_size_turn size_eq k
  by_cases armed : r.buffer.armed.lock = true
  · rw [clear_of_armed pos size_eq armed, clear_of_armed (r := r.turn k) pos size_eq' armed]
    rfl
  · have unarmed := eq_false_of_ne_true armed
    have whole : (List.replicate r.size r.silence).length = r.buffer.size := by simp [size_eq]
    have silent := withBytes_turn whole k
    rw [turnBytes_replicate] at silent
    rw [clear_eq size_eq pos unarmed, clear_eq (r := r.turn k) size_eq' pos unarmed, size_turn,
      silence_turn, silent]
    rfl

end RingBuffer

end Playout
