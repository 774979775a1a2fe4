import Playout.Fault
import Playout.Source.Encoding

/-!
# Files made of chunks

Several audio containers share a layout: a list of chunks, each with a name of four characters and
a length in front of its bytes, and a byte of padding behind an odd number of them. `Reading` takes
bytes from the front of a file, and `ChunkList` walks a list of chunks.

## Design points

* **A reading that runs out of bytes, or finds lengths that contradict each other, has no result.**
* **The list is walked by its lengths.** What a chunk's reader really takes is up to that reader;
  the list only counts what the chunks announce.
-/

namespace Playout

/-- Why a file cannot be read. -/
inductive ReadingError
  /-- Its bytes end too early, contradict each other, or say what is not understood. -/
  | malformed
  /-- It asks for what has no answer. -/
  | fault (f : Fault)
  deriving DecidableEq, Repr

/-- Takes something from the front of a file. -/
abbrev Reading := StateT (List UInt8) (Except ReadingError)

namespace Reading

def malformed : Reading α := fun _ => .error .malformed

def fault (f : Fault) : Reading α := fun _ => .error (.fault f)

/-- The next `count` bytes. -/
def bytes (count : Nat) : Reading (List UInt8) := fun input =>
  if count ≤ input.length then .ok (input.take count, input.drop count) else .error .malformed

/-- Leaves out `count` bytes. -/
def skip (count : Nat) : Reading Unit := fun input =>
  if count ≤ input.length then .ok ((), input.drop count) else .error .malformed

/-- The next number of `width` bytes. -/
def number (order : ByteOrder) (width : Nat) : Reading Nat := fun input =>
  (bytes width input).map fun (word, rest) => (order.number word, rest)

/-- The next four characters. -/
def name : Reading String := fun input =>
  (bytes 4 input).map fun (word, rest) =>
    (String.ofList (word.map fun b => Char.ofNat b.toNat), rest)

end Reading

/-- A chunk whose bytes come next. -/
structure ChunkHeader where
  name : String
  /-- The length it announces. -/
  length : Nat
  deriving DecidableEq, Repr

/-- A list of chunks that is being walked. -/
structure ChunkList where
  order : ByteOrder
  /-- Bytes of the list that no chunk has claimed yet. -/
  left : Nat
  /-- Whether a byte of padding comes next. -/
  padded : Bool := false
  /-- Whether nobody knew the length of the list when it was begun. -/
  endless : Bool := false
  deriving DecidableEq, Repr

namespace ChunkList

/-- The length that says that nobody knew the length. -/
def unknownLength : Nat := 0xFFFFFFFF

/-- A list of so many bytes. -/
def begin (order : ByteOrder) (length : Nat) : ChunkList :=
  { order, left := length, endless := length = unknownLength }

/-- Walks over the padding, if there is any. -/
def align (l : ChunkList) : Reading ChunkList := fun input =>
  if l.padded then
    (Reading.skip 1 input).map fun (_, rest) =>
      ({ l with left := l.left - 1, padded := false }, rest)
  else .ok (l, input)

/-- The next chunk, none at the end of the list, and the list behind it. A chunk longer than what
is left of the list is accepted only where nobody knew either length. -/
def next (l : ChunkList) : Reading (Option ChunkHeader × ChunkList) := fun input =>
  match l.align input with
  | .error e => .error e
  | .ok (l, input) =>
    if l.left < 8 then .ok ((none, l), input)
    else
      match Reading.name input with
      | .error e => .error e
      | .ok (name, input) =>
        match Reading.number l.order 4 input with
        | .error e => .error e
        | .ok (length, input) =>
          let left := l.left - 8
          if left < length ∧ ¬ (l.endless ∧ length = unknownLength) then .error .malformed
          else
            .ok ((some ⟨name, length⟩,
              { l with left := left - length, padded := length % 2 == 1 }), input)

/-- The padding belongs to the list. -/
theorem left_of_align {l l' : ChunkList} {input rest : List UInt8}
    (h : l.align input = .ok (l', rest)) : l'.left ≤ l.left := by
  unfold align at h
  split at h
  · cases skipped : Reading.skip 1 input with
    | error e => simp [skipped, Except.map] at h
    | ok r =>
      simp only [skipped, Except.map, Except.ok.injEq, Prod.mk.injEq] at h
      obtain ⟨rfl, -⟩ := h
      exact Nat.sub_le _ _
  · cases h
    exact Nat.le_refl _

/-- Walking on leaves less of the list. -/
theorem left_of_next {l l' : ChunkList} {chunk : ChunkHeader} {input rest : List UInt8}
    (h : l.next input = .ok ((some chunk, l'), rest)) : l'.left < l.left := by
  unfold next at h
  split at h
  · cases h
  next aligned input' walked =>
  have le : aligned.left ≤ l.left := left_of_align walked
  split at h
  · cases h
  split at h
  · cases h
  split at h
  · cases h
  dsimp only at h
  split at h
  · cases h
  · cases h
    show aligned.left - 8 - _ < l.left
    omega

/-- Leaves out the chunks of a list and what is left of it behind them. -/
def skipChunks (l : ChunkList) : Reading Unit := fun input =>
  match h : l.next input with
  | .error e => .error e
  | .ok ((none, l'), rest) => Reading.skip l'.left rest
  | .ok ((some chunk, l'), rest) =>
    have := left_of_next h
    match Reading.skip chunk.length rest with
    | .error e => .error e
    | .ok ((), rest) => skipChunks l' rest
termination_by l.left

end ChunkList

end Playout
