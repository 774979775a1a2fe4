import Playout.Decimal.Shortest
import Playout.Fault
import Playout.Folder
import Playout.Ticks
import Playout.WaveFormat.Basic

/-!
# What sources hand over

A source produces the bytes of a stream chunk by chunk, each with the time at which it is to be
heard. Times come from the number of frames before, so that they do not drift: a chunk starts on
the very tick on which the one before it stopped.
-/

namespace Playout

/-- Packed samples with their presentation times. -/
structure PcmChunk where
  data : List UInt8
  start : Ticks
  stop : Ticks
  deriving DecidableEq, Repr

/-- The time after so many frames, rounded down to a tick. -/
def ticksOfFrames (frames rate : Nat) : Ticks :=
  wrapSigned (frames * ticksPerSecond / rate : Nat)

@[simp] theorem ticksOfFrames_zero (rate : Nat) : ticksOfFrames 0 rate = 0 := by
  simp [ticksOfFrames, wrapSigned]

/-- Why a tone cannot be produced. -/
inductive ToneError
  | format (e : FormatError)
  | notInteger
  /-- The frequency is not between zero and half the frame rate. -/
  | frequency (hz limit : Float)
  deriving Repr

def ToneError.message : ToneError → String
  | format e => e.message
  | notInteger => "only integer PCM is supported"
  | frequency hz limit =>
    "frequency " ++ Decimal.shortest hz ++ " Hz outside (0, " ++ Decimal.shortest limit ++ ") Hz"

/-- Why the samples of a file cannot be read. -/
inductive DecoderError
  | noChannels
  /-- Samples are said to have more bits than their encoding can give. -/
  | tooDeep
  deriving DecidableEq, Repr

def DecoderError.message : DecoderError → String
  | noChannels => "unsupported feature: pcm: number of channels cannot be 0"
  | tooDeep =>
    "malformed stream: pcm: coded bits per sample is greater than the sample format"

/-- Why a source does not open, or fails later. -/
inductive SourceError
  | fileOpen (e : OpenError)
  /-- The file is not in a container that is understood. -/
  | unsupportedFormat
  /-- The container holds no audio. -/
  | noAudioTrack
  | decoderCreation (e : DecoderError)
  /-- The blocks of the data have no length. -/
  | emptyBlocks
  | invalidTone (e : ToneError)
  | fault (f : Fault)
  deriving Repr

def SourceError.message : SourceError → String
  | fileOpen e => "failed to open file: " ++ e.message
  | unsupportedFormat => "unsupported audio format"
  | noAudioTrack => "no audio track found"
  | decoderCreation e => "failed to create decoder: " ++ e.message
  | emptyBlocks => "decode failed: malformed stream: riff: block size is 0"
  | invalidTone e => "invalid tone: " ++ e.message
  | fault f => f.message

end Playout
