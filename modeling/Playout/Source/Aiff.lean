import Playout.Decimal.Binary64
import Playout.Source.Container

/-!
# AIFF files

An AIFF file is a list of chunks with their numbers most significant byte first. A `COMM` chunk
describes the samples and an `SSND` chunk, the last that is looked at, holds them behind eight
bytes of its own, which count as sound data where the length is concerned.

A file comes in one of two forms. In the form `AIFF` samples are integers; in the form `AIFC` the
`COMM` chunk goes on with the name of an encoding.
-/

namespace Playout.Aiff

open Decimal (roundHalfEven twoTo)

/-- A number of `width` bytes. -/
def number (width : Nat) : Reading Nat := Reading.number .big width

/-- A mantissa of 64 bits rounded to the 53 bits of a double. -/
def roundMantissa (mantissa : Nat) : Nat :=
  let unit := twoTo (Nat.log2 mantissa - 52)
  roundHalfEven mantissa unit * unit

/-- A floating point number of 80 bits as an unsigned word of 32 bits: rounded to a double first,
then toward zero, and clipped. Sign and exponent have 16 bits, and the first of the 64 bits of the
mantissa stands before the point. -/
def extended (head mantissa : Nat) : Nat :=
  let exponent := head % 0x8000
  if 0x8000 ≤ head then 0
  else if exponent = 0x7FFF then if mantissa % 0x8000000000000000 = 0 then 0xFFFFFFFF else 0
  else
    let unit := 16383 + 63
    min 0xFFFFFFFF (roundMantissa mantissa * twoTo (exponent - unit) / twoTo (unit - exponent))

/-! ### Descriptions -/

/-- The part of a `COMM` chunk that both forms share. -/
structure Common where
  channels : Nat
  bits : Nat
  sampleRate : Nat
  deriving DecidableEq, Repr

def common : Reading Common := do
  let channels ← number 2
  let _ ← number 4
  let bits ← number 2
  let head ← number 2
  return { channels, bits, sampleRate := extended head (← number 8) }

/-- The audio that a `COMM` chunk describes, in an encoding that names a depth or does not. -/
def Common.describe (c : Common) (encoding : Encoding) (named : Bool) : Reading AudioDescription :=
  if !placeable c.channels then Reading.malformed
  else
    pure
      { sampleRate := c.sampleRate
        channels := c.channels
        encoding
        bits := if named then some ⟨c.bits, c.bits⟩ else none
        blockAlign := c.channels * encoding.width }

/-- Integers of the announced depth. -/
def Common.integers (c : Common) : Reading AudioDescription :=
  match c.bits with
  | 8 => c.describe (.signed 1 .big) true
  | 16 => c.describe (.signed 2 .big) true
  | 24 => c.describe (.signed 3 .big) true
  | 32 => c.describe (.signed 4 .big) true
  | _ => Reading.malformed

/-- Integers of 16 bits and nothing else. -/
def Common.sixteen (c : Common) (order : ByteOrder) : Reading AudioDescription :=
  if c.bits = 16 then c.describe (.signed 2 order) true else Reading.malformed

/-- Floating point numbers of the announced width. -/
def Common.floats (c : Common) : Reading AudioDescription :=
  match c.bits with
  | 32 => c.describe (.single .big) false
  | 64 => c.describe (.double .big) false
  | _ => Reading.malformed

/-- What follows in the form `AIFC`: the name of the encoding, and a text with its length in front,
together an even number of bytes. -/
def Common.named (c : Common) : Reading AudioDescription := do
  let name ← Reading.name
  let length ← number 1
  Reading.skip (length + (length + 1) % 2)
  match name with
  | "none" | "NONE" => c.integers
  | "sowt" => c.sixteen .little
  | "twos" => c.sixteen .big
  | "fl32" | "FL32" | "fl64" | "FL64" => c.floats
  | "alaw" | "ALAW" => c.describe .aLaw false
  | "ulaw" | "ULAW" => c.describe .muLaw false
  | _ => Reading.malformed

/-! ### Chunks -/

/-- What a chunk other than the sound data adds to the header, in a file of the given form. -/
def chunk (form : String) (h : ContainerHeader) (c : ChunkHeader) : Reading ContainerHeader := do
  match c.name, form with
  | "COMM", "AIFF" => h.describe (← (← common).integers)
  | "COMM", "AIFC" => h.describe (← (← common).named)
  | "COMM", _ => Reading.malformed
  | _, _ => Reading.skip c.length; return h

/-- The eight bytes in front of the sound data: an offset and a block size, neither of which is
understood. -/
def soundHeader : Reading Unit := do
  if (← number 4) ≠ 0 then Reading.malformed
  if (← number 4) ≠ 0 then Reading.malformed

/-- Walks the chunks up to the sound data. -/
def walk (form : String) (h : ContainerHeader) (chunks : ChunkList) (input : List UInt8) :
    Except ReadingError Container :=
  match found : chunks.next input with
  | .error e => .error e
  | .ok ((none, _), _) => .error .malformed
  | .ok ((some c, chunks'), rest) =>
    have := ChunkList.left_of_next found
    if c.name = "SSND" then (soundHeader rest).map fun ((), rest) => h.sound c.length rest
    else
      match chunk form h c rest with
      | .error e => .error e
      | .ok (h, rest) => walk form h chunks' rest
termination_by chunks.left

/-- Reads an AIFF file from behind its marker on. -/
def read (input : List UInt8) : Except ReadingError Container :=
  match number 4 input with
  | .error e => .error e
  | .ok (length, input) =>
    match Reading.name input with
    | .ok (form, input) => walk form {} (.begin .big length) input
    | .error e => .error e

end Playout.Aiff
