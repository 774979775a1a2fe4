import Playout.Source.AudioFile
import Playout.Source.Tone

/-!
# Sources of any kind
-/

namespace Playout

/-- Where the chunks of a stream come from. -/
inductive Source
  | tone (t : ToneSource)
  | file (f : AudioFile)
  deriving Repr

namespace Source

/-- The format of the chunks. -/
def format : Source → WaveFormat
  | tone t => t.format
  | file f => f.format

/-- The next chunk, none at the end. -/
def next? : Source → Except SourceError (Option (PcmChunk × Source))
  | tone t => .ok (t.next?.map fun (chunk, t) => (chunk, tone t))
  | file f =>
    match f.next? with
    | .ok found => .ok (found.map fun (chunk, f) => (chunk, file f))
    | .error e => .error e

/-- What is left of a source: frames of a tone, bytes of a file. -/
def left : Source → Nat
  | tone t => t.remaining
  | file f => f.left

/-- Every source comes to its end. -/
theorem left_of_next? {s s' : Source} {chunk : PcmChunk}
    (h : s.next? = .ok (some (chunk, s'))) : s'.left < s.left := by
  cases s with
  | tone t =>
    simp only [next?, Except.ok.injEq, Option.map_eq_some_iff, Prod.mk.injEq] at h
    obtain ⟨⟨_, t'⟩, found, rfl, rfl⟩ := h
    exact ToneSource.remaining_of_next? found
  | file f =>
    unfold next? at h
    dsimp only at h
    split at h
    · next found =>
      simp only [Except.ok.injEq, Option.map_eq_some_iff, Prod.mk.injEq] at h
      obtain ⟨⟨_, f'⟩, rfl, rfl, rfl⟩ := h
      exact AudioFile.left_of_next? found
    · cases h

end Source

end Playout
