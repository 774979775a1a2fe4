import Playout.Source.Chunk
import Playout.WaveFormat.Packing

/-!
# Sine tones

A tone of one frequency at half of full scale, the same in all channels. Its frames are numbered
from the start of the tone and each is computed from its number alone, so that chunks fit together
whatever their length.
-/

namespace Playout

/-- A tone that is being produced. -/
structure ToneSource where
  format : WaveFormat
  frequency : Float
  /-- Frames of the whole tone. -/
  totalFrames : Nat
  /-- Frames produced so far. -/
  position : Nat := 0
  deriving Repr

namespace ToneSource

/-- One turn of a circle. -/
def fullTurn : Float := 6.283185307179586

/-- The height of a tone, as a part of full scale. -/
def amplitude : Float := 0.5

/-- The largest sample. -/
def fullScale : Float := 2147483647.0

/-- Whole frames that play in a duration. -/
def framesIn (duration : Duration) (rate : Nat) : Nat :=
  wrapUnsigned (duration.nanoseconds * rate / 1000000000)

/-- A tone in an integer format, with a frequency that the frame rate can carry. -/
def create (frequency : Float) (duration : Duration) (format : WaveFormat) :
    Except SourceError ToneSource :=
  match format.validate with
  | .error e => .error (.invalidTone (.format e))
  | .ok () =>
    let limit := Float.ofNat format.sampleRate / 2.0
    if format.tag ≠ .pcm then .error (.invalidTone .notInteger)
    else if 0.0 < frequency && frequency < limit then
      .ok { format, frequency, totalFrames := framesIn duration format.sampleRate }
    else .error (.invalidTone (.frequency frequency limit))

/-- The sample of frame `n`. -/
def sampleAt (t : ToneSource) (n : Nat) : Sample :=
  let phase := fullTurn * t.frequency * Float.ofNat n / Float.ofNat t.format.sampleRate
  (phase.sin * amplitude * fullScale).toInt32

/-- Frames of a full chunk, 20 ms of them. -/
def framesPerChunk (rate : Nat) : Nat := max (rate * 20 / 1000) 1

theorem framesPerChunk_pos (rate : Nat) : 0 < framesPerChunk rate := Nat.le_max_right _ _

/-- Frames not produced yet. -/
def remaining (t : ToneSource) : Nat := t.totalFrames - t.position

/-- The bytes of `count` frames from frame `first` on. -/
def frames (t : ToneSource) (first count : Nat) : List UInt8 :=
  let samples := (List.range' first count).flatMap fun n =>
    List.replicate t.format.channels (t.sampleAt n)
  match t.format.packAll samples with
  | .ok bytes => bytes
  | .error _ => []

/-- The next chunk, unless the tone has ended. -/
def next? (t : ToneSource) : Option (PcmChunk × ToneSource) :=
  if t.remaining = 0 then none
  else
    let count := min (framesPerChunk t.format.sampleRate) t.remaining
    let stop := t.position + count
    some
      ({ data := t.frames t.position count
         start := ticksOfFrames t.position t.format.sampleRate
         stop := ticksOfFrames stop t.format.sampleRate },
        { t with position := stop })

/-- Each chunk leaves less of the tone. -/
theorem remaining_of_next? {t t' : ToneSource} {chunk : PcmChunk}
    (h : t.next? = some (chunk, t')) : t'.remaining < t.remaining := by
  unfold next? at h
  split at h
  · cases h
  · next left =>
    cases h
    have := framesPerChunk_pos t.format.sampleRate
    simp only [remaining] at left ⊢
    omega

/-- All chunks that are left. -/
def chunks (t : ToneSource) : List PcmChunk :=
  match h : t.next? with
  | none => []
  | some (chunk, t') =>
    have := remaining_of_next? h
    chunk :: chunks t'
termination_by t.remaining

end ToneSource

end Playout
