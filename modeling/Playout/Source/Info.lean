import Playout.Source.Encoding

/-!
# What a file says about its audio
-/

namespace Playout

/-- The depth of the samples that are handed over for a file of the given depth: the next of the
packed depths, 16 bits if the file names none. -/
def outputDepth : Option Nat → Nat
  | none => 16
  | some bits => if bits ≤ 8 then 8 else if bits ≤ 16 then 16 else if bits ≤ 24 then 24 else 32

theorem outputDepth_packed (depth : Option Nat) :
    outputDepth depth = 8 ∨ outputDepth depth = 16 ∨ outputDepth depth = 24
      ∨ outputDepth depth = 32 := by
  unfold outputDepth
  split
  · exact .inr (.inl rfl)
  · split
    · exact .inl rfl
    split
    · exact .inr (.inl rfl)
    split
    · exact .inr (.inr (.inl rfl))
    · exact .inr (.inr (.inr rfl))

/-- A depth that is packed is kept. -/
theorem outputDepth_self {bits : Nat} (h : bits = 8 ∨ bits = 16 ∨ bits = 24 ∨ bits = 32) :
    outputDepth (some bits) = bits := by
  rcases h with rfl | rfl | rfl | rfl <;> rfl

/-- What is known of the audio of a file. -/
structure AudioInfo where
  /-- Frames per second. -/
  sampleRate : Nat
  channels : Nat
  /-- Significant bits of a sample, where the file names them. -/
  bitDepth : Option Nat
  /-- Frames, where the file tells. -/
  totalFrames : Option Nat
  encoding : Encoding
  deriving DecidableEq, Repr

namespace AudioInfo

/-- The playing time in seconds. -/
def seconds (i : AudioInfo) : Option Float :=
  i.totalFrames.map fun frames => Float.ofNat frames / Float.ofNat i.sampleRate

/-- The format of the bytes that are handed over. -/
def waveFormat (i : AudioInfo) : WaveFormat :=
  .pcm i.sampleRate i.channels (outputDepth i.bitDepth)

end AudioInfo

end Playout
