import Playout.Source.Container

/-!
# WAVE files

A WAVE file is a list of chunks in which a `fmt ` chunk describes the samples and a `data` chunk,
the last that is looked at, holds them. A `fact` chunk names the number of frames, `LIST` chunks
hold texts, and all other chunks are left out.

The `fmt ` chunk begins with 16 bytes that all encodings share: tag, channels, frame rate, bytes
per second, bytes per block and bits per sample. What may follow depends on the tag.
-/

namespace Playout.Wave

/-- A number of `width` bytes. -/
def number (width : Nat) : Reading Nat := Reading.number .little width

/-- The encoding of integers of a depth. -/
def integers : Nat → Reading Encoding
  | 8 => pure .unsigned
  | 16 => pure (.signed 2 .little)
  | 24 => pure (.signed 3 .little)
  | 32 => pure (.signed 4 .little)
  | _ => Reading.malformed

/-- The encoding of floating point numbers of a width. -/
def floats : Nat → Reading Encoding
  | 32 => pure (.single .little)
  | 64 => pure (.double .little)
  | _ => Reading.malformed

/-- Checks that so many channels can be placed. -/
def checkChannels (channels : Nat) : Reading Unit :=
  if placeable channels then pure () else Reading.malformed

/-! ### Extensions of a `fmt ` chunk -/

/-- The extension of a chunk for integers: none, an empty one, or one of 22 bytes. Its own length is
not looked at. -/
def integerExtension : (length : Nat) → Reading Unit
  | 16 => pure ()
  | 18 => Reading.skip 2
  | 40 => Reading.skip 24
  | _ => Reading.malformed

/-- The extension of a chunk for floating point numbers, likewise, but with a length that fits. -/
def floatExtension : (length : Nat) → Reading Unit
  | 16 => pure ()
  | 18 => do
    if (← number 2) ≠ 0 then Reading.malformed
  | 40 => do
    if (← number 2) ∈ [0, 22] then Reading.skip 22 else Reading.malformed
  | _ => Reading.malformed

/-- The extension of a chunk for companded samples: a length and that many bytes. -/
def compandedExtension (length : Nat) : Reading Unit := do
  if length ≠ 18 then Reading.malformed
  Reading.skip (← number 2)

/-- How the long names of encodings end that begin with the tag of the encoding. -/
def standardTail : List UInt8 :=
  [0, 0, 0, 0, 0x10, 0, 0x80, 0, 0, 0xAA, 0, 0x38, 0x9B, 0x71]

/-- How the long names end for a sound field recorded from all directions at once. -/
def ambisonicTail : List UInt8 :=
  [0, 0, 0x21, 0x07, 0xD3, 0x11, 0x86, 0x44, 0xC8, 0xC1, 0xCA, 0, 0, 0]

/-- The places of the speakers for so many channels: those that a mask names, from the lowest on,
and the places above them if it names too few. -/
def speakers (mask channels : Nat) : List Nat :=
  let named := (List.range 32).filter mask.testBit
  let above := (named.getLast?.map (· + 1)).getD 0
  (named ++ List.range' above channels).take channels

/-- The encoding with the given long name, for samples of the given depth. The name of the mu-law
has the tag 4. -/
def longNamed (tag : Nat) (tail : List UInt8) (bits : SampleBits) : Reading Encoding :=
  let standard := tail = standardTail
  let plain := standard ∨ tail = ambisonicTail
  match tag with
  | 1 =>
    if ¬ plain then Reading.malformed
    else if bits.stored = 0 then Reading.fault .emptyIntegers
    else integers bits.stored
  | 3 => if plain ∧ bits.significant = bits.stored then floats bits.stored else Reading.malformed
  | 4 => if standard then pure .muLaw else Reading.malformed
  | 6 => if standard then pure .aLaw else Reading.malformed
  | _ => Reading.malformed

/-- The extension that spells the encoding out: significant bits, a mask of speakers, and the long
name. Every channel needs a speaker that has a place. -/
def longExtension (length channels stored : Nat) : Reading (Encoding × SampleBits) := do
  if length < 40 then Reading.malformed
  if (← number 2) ≠ 22 then Reading.malformed
  let significant ← number 2
  let mask ← number 4
  let tag ← number 2
  let tail ← Reading.bytes 14
  if stored % 8 ≠ 0 ∨ stored < significant then Reading.malformed
  if (speakers mask channels).any (maxChannels ≤ ·) then Reading.malformed
  let bits : SampleBits := ⟨significant, stored⟩
  return (← longNamed tag tail bits, bits)

/-! ### Chunks -/

/-- Reads a `fmt ` chunk. Only integers and long names name a depth. -/
def format (length : Nat) : Reading AudioDescription := do
  if length < 16 then Reading.malformed
  let tag ← number 2
  let channels ← number 2
  let sampleRate ← number 4
  let _ ← number 4
  let blockAlign ← number 2
  let bits ← number 2
  let described (encoding : Encoding) (bits : Option SampleBits) : AudioDescription :=
    { sampleRate, channels, encoding, bits, blockAlign }
  match tag with
  | 1 =>
    integerExtension length
    let encoding ← integers bits
    checkChannels channels
    return described encoding (some ⟨bits, bits⟩)
  | 3 =>
    floatExtension length
    let encoding ← floats bits
    checkChannels channels
    return described encoding none
  | 6 =>
    compandedExtension length
    checkChannels channels
    return described .aLaw none
  | 7 =>
    compandedExtension length
    checkChannels channels
    return described .muLaw none
  | 0xFFFE =>
    let (encoding, bits) ← longExtension length channels bits
    return described encoding (some bits)
  | _ => Reading.malformed

/-- Leaves out a `LIST` chunk and a byte of padding behind an odd number of bytes in it. A list of
texts is walked chunk by chunk. -/
def list (length : Nat) : Reading Unit := do
  if length < 4 then Reading.malformed
  let length := length - 4
  if (← Reading.name) = "INFO" then ChunkList.skipChunks (.begin .little length)
  else Reading.skip length
  Reading.skip (length % 2)

/-- What a chunk other than the sound data adds to the header. -/
def chunk (h : ContainerHeader) (c : ChunkHeader) : Reading ContainerHeader := do
  match c.name with
  | "fmt " => h.describe (← format c.length)
  | "fact" =>
    if c.length ≠ 4 then Reading.malformed
    return { h with frames := some (← number 4) }
  | "LIST" => list c.length; return h
  | _ => Reading.skip c.length; return h

/-- Walks the chunks up to the sound data. -/
def walk (h : ContainerHeader) (chunks : ChunkList) (input : List UInt8) :
    Except ReadingError Container :=
  match found : chunks.next input with
  | .error e => .error e
  | .ok ((none, _), _) => .error .malformed
  | .ok ((some c, chunks'), rest) =>
    have := ChunkList.left_of_next found
    if c.name = "data" then .ok (h.sound c.length rest)
    else
      match chunk h c rest with
      | .error e => .error e
      | .ok (h, rest) => walk h chunks' rest
termination_by chunks.left

/-- Reads a WAVE file from behind its marker on. -/
def read (input : List UInt8) : Except ReadingError Container :=
  match number 4 input with
  | .error e => .error e
  | .ok (length, input) =>
    match Reading.name input with
    | .ok ("WAVE", input) => walk {} (.begin .little length) input
    | _ => .error .malformed

end Playout.Wave
