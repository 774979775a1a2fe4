/-!
# Wave formats

A `WaveFormat` says how the bytes of a stream are laid out: interleaved samples of a number of
channels, so many frames a second. Three of its fields follow from the others; a format is
accepted by `validate` exactly when they do and when the free ones are in range.

## Design points

* **Fields are natural numbers.** The header fields are words of 16 and 32 bits; the only place
  where a word can overflow is the frame layout, and `frameLayout` answers `none` there.
* **Errors are causes.** `FormatError` names what is wrong; `FormatError.message` words it.
-/

namespace Playout

/-- The highest frame rate a format may have. -/
def maxSampleRate : Nat := 768000

/-- How a sample is written. -/
inductive FormatTag
  /-- Integers: unsigned with 8 bits, otherwise signed, least significant byte first. -/
  | pcm
  /-- Floating point numbers of 32 bits. -/
  | ieeeFloat
  deriving DecidableEq, Repr

/-- The layout of a byte stream. -/
structure WaveFormat where
  tag : FormatTag
  channels : Nat
  /-- Frames per second. -/
  sampleRate : Nat
  /-- Bytes per second. -/
  byteRate : Nat
  /-- Bytes per frame. -/
  blockAlign : Nat
  bitsPerSample : Nat
  /-- Length of the header's extension. -/
  extraSize : Nat
  deriving DecidableEq, Repr

/-- Why a format is refused. -/
inductive FormatError
  | noChannels
  | sampleRate (hz : Nat)
  | bitDepth (bits : Nat)
  | blockAlign (expected actual : Nat)
  | byteRate (expected actual : Nat)
  /-- The frame does not fit 16 bits, or the bytes per second do not fit 32. -/
  | overflow (channels bits rate : Nat)
  deriving DecidableEq, Repr

namespace FormatError

def message : FormatError → String
  | noChannels => "channel count must be non-zero"
  | sampleRate hz => "sample rate " ++ toString hz ++ " Hz out of range"
  | bitDepth bits => toString bits ++ " bits per sample not supported"
  | blockAlign expected actual =>
    "block alignment " ++ toString actual ++ " does not match " ++ toString expected
  | byteRate expected actual =>
    "average bytes per second " ++ toString actual ++ " does not match " ++ toString expected
  | overflow channels bits rate =>
    toString channels ++ " channels of " ++ toString bits ++ " bits at " ++ toString rate
      ++ " Hz overflows the frame layout"

end FormatError

/-- Bytes per frame and bytes per second that follow from the other fields, if they fit their
words of 16 and 32 bits. -/
def frameLayout (channels bits rate : Nat) : Option (Nat × Nat) :=
  let align := channels * (bits / 8)
  if align < 0x10000 ∧ rate * align < 0x100000000 then some (align, rate * align) else none

theorem frameLayout_eq_some {channels bits rate align bytes : Nat}
    (h : frameLayout channels bits rate = some (align, bytes)) :
    align = channels * (bits / 8) ∧ bytes = rate * align ∧ align < 0x10000
      ∧ bytes < 0x100000000 := by
  simp only [frameLayout, Option.ite_none_right_eq_some, Option.some.injEq, Prod.mk.injEq] at h
  obtain ⟨⟨ha, hb⟩, rfl, rfl⟩ := h
  exact ⟨rfl, rfl, ha, hb⟩

namespace WaveFormat

/-- The integer format of the given rate, channels and depth. A layout that does not fit is
given the largest words, which `validate` refuses. -/
def pcm (rate channels bits : Nat) : WaveFormat :=
  let (align, bytes) := (frameLayout channels bits rate).getD (0xFFFF, 0xFFFFFFFF)
  { tag := .pcm, channels, sampleRate := rate, byteRate := bytes, blockAlign := align,
    bitsPerSample := bits, extraSize := 0 }

/-- The floating point format of the given rate and channels. -/
def float (rate channels : Nat) : WaveFormat :=
  { pcm rate channels 32 with tag := .ieeeFloat }

/-- The depths that samples of this kind may have. -/
def depthAllowed (f : WaveFormat) : Bool :=
  match f.tag with
  | .pcm => f.bitsPerSample == 8 || f.bitsPerSample == 16 || f.bitsPerSample == 24
      || f.bitsPerSample == 32
  | .ieeeFloat => f.bitsPerSample == 32

/-- Checks the fields against each other; of several faults the first in this order is named. -/
def validate (f : WaveFormat) : Except FormatError Unit :=
  if f.channels = 0 then .error .noChannels
  else if f.sampleRate = 0 ∨ maxSampleRate < f.sampleRate then .error (.sampleRate f.sampleRate)
  else if !f.depthAllowed then .error (.bitDepth f.bitsPerSample)
  else
    match frameLayout f.channels f.bitsPerSample f.sampleRate with
    | none => .error (.overflow f.channels f.bitsPerSample f.sampleRate)
    | some (align, bytes) =>
      if f.blockAlign ≠ align then .error (.blockAlign align f.blockAlign)
      else if f.byteRate ≠ bytes then .error (.byteRate bytes f.byteRate)
      else .ok ()

/-- Two formats between which a connected stream may switch: they differ at most in the frame
rate and in the byte rate that goes with it. -/
def renegotiableTo (f other : WaveFormat) : Bool :=
  f.tag == other.tag && f.channels == other.channels && f.blockAlign == other.blockAlign
    && f.bitsPerSample == other.bitsPerSample && f.extraSize == other.extraSize

/-- Whole bytes per sample. -/
def bytesPerSample (f : WaveFormat) : Nat := f.bitsPerSample / 8

/-- The byte that sounds as silence: the midpoint of unsigned samples, zero otherwise. -/
def silence (f : WaveFormat) : UInt8 :=
  if f.tag = .pcm ∧ f.bitsPerSample = 8 then 0x80 else 0

/-- One line that describes the format. -/
def text (f : WaveFormat) : String :=
  let kind := match f.tag with
    | .pcm => "PCM"
    | .ieeeFloat => "float"
  toString f.sampleRate ++ "Hz " ++ toString f.channels ++ "ch " ++ toString f.bitsPerSample
    ++ "bit " ++ kind ++ " (" ++ toString f.byteRate ++ " B/s)"

/-! ### What an accepted format satisfies -/

/-- The fields of an accepted format. -/
theorem of_validate {f : WaveFormat} (h : f.validate = .ok ()) :
    0 < f.channels ∧ 0 < f.sampleRate ∧ f.sampleRate ≤ maxSampleRate ∧ f.depthAllowed = true
      ∧ f.blockAlign = f.channels * f.bytesPerSample ∧ f.byteRate = f.sampleRate * f.blockAlign
      ∧ f.blockAlign < 0x10000 ∧ f.byteRate < 0x100000000 := by
  unfold validate at h
  split at h
  · cases h
  next hc =>
  split at h
  · cases h
  next hr =>
  split at h
  · cases h
  next hd =>
  split at h
  · cases h
  next align bytes layout =>
  split at h
  · cases h
  next ha =>
  split at h
  · cases h
  next hb =>
  obtain ⟨h1, h2, h3, h4⟩ := frameLayout_eq_some layout
  simp only [ne_eq, Decidable.not_not] at ha hb
  simp only [not_or, Nat.not_lt] at hr
  refine ⟨by omega, by omega, hr.2, by simpa using hd, ?_, ?_, ?_, ?_⟩
  · rw [ha, h1, bytesPerSample]
  · rw [hb, ha, h2]
  · omega
  · omega

theorem bytesPerSample_pos_of_depthAllowed {f : WaveFormat} (h : f.depthAllowed = true) :
    0 < f.bytesPerSample := by
  unfold depthAllowed at h
  unfold bytesPerSample
  split at h <;> simp at h <;> omega

theorem blockAlign_pos_of_validate {f : WaveFormat} (h : f.validate = .ok ()) :
    0 < f.blockAlign := by
  obtain ⟨hc, _, _, hd, ha, _⟩ := of_validate h
  rw [ha]
  exact Nat.mul_pos hc (bytesPerSample_pos_of_depthAllowed hd)

theorem byteRate_pos_of_validate {f : WaveFormat} (h : f.validate = .ok ()) :
    0 < f.byteRate := by
  obtain ⟨_, hr, _, _, _, hb, _⟩ := of_validate h
  rw [hb]
  exact Nat.mul_pos hr (blockAlign_pos_of_validate h)

end WaveFormat

end Playout
