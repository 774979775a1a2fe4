import Playout.Source.Iff
import Playout.Source.Info

/-!
# Audio containers

What the reader of any container has found once it stands at the sound data: what the file says
about its audio, how long a block is, and the sound data themselves.

A file may describe its audio several times. A later description replaces an earlier one, except
that the depth of the samples holds until another one is named.
-/

namespace Playout

/-- A container opened up to its sound data. -/
structure Container where
  /-- What the header says of the audio, if it says anything. -/
  info : Option AudioInfo
  /-- Bits of a sample as it is stored, where the header names them. -/
  storedBits : Option Nat
  /-- Bytes per block, one frame of all channels. -/
  blockAlign : Nat
  /-- Whole blocks of sound, as many as were announced and are there. -/
  payload : List UInt8
  deriving DecidableEq, Repr

/-- How deep samples are. -/
structure SampleBits where
  significant : Nat
  stored : Nat
  deriving DecidableEq, Repr

/-- One description of the audio of a file. -/
structure AudioDescription where
  sampleRate : Nat
  channels : Nat
  encoding : Encoding
  bits : Option SampleBits
  blockAlign : Nat
  deriving DecidableEq, Repr

/-- What a header has said before the sound data. -/
structure ContainerHeader where
  info : Option AudioInfo := none
  storedBits : Option Nat := none
  blockAlign : Nat := 0
  /-- The number of frames, where the header names it. -/
  frames : Option Nat := none
  deriving DecidableEq, Repr

namespace ContainerHeader

/-- The header after a further description of the audio. -/
def describe (h : ContainerHeader) (d : AudioDescription) : Reading ContainerHeader :=
  if d.sampleRate = 0 then Reading.fault .zeroFrameRate
  else
    let info : AudioInfo :=
      { sampleRate := d.sampleRate
        channels := d.channels
        bitDepth := d.bits.elim (h.info.bind (·.bitDepth)) fun b => some b.significant
        totalFrames := none
        encoding := d.encoding }
    pure
      { h with
        info := some info
        storedBits := d.bits.elim h.storedBits fun b => some b.stored
        blockAlign := d.blockAlign }

/-- The container whose sound data, announced as `length` bytes, come next. The announced length
counts the frames, even if the file is shorter. -/
def sound (h : ContainerHeader) (length : Nat) (rest : List UInt8) : Container :=
  let frames := if h.blockAlign = 0 then h.frames else some (length / h.blockAlign)
  { info := h.info.map ({ · with totalFrames := frames })
    storedBits := h.storedBits
    blockAlign := h.blockAlign
    payload := rest.take (length / h.blockAlign * h.blockAlign) }

end ContainerHeader

/-- The most channels a container may have, one for each place of a speaker that has a name. -/
def maxChannels : Nat := 26

/-- Whether so many channels can be placed. -/
def placeable (channels : Nat) : Bool := 1 ≤ channels && channels ≤ maxChannels

end Playout
