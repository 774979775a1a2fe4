import Playout.Source.Encoding

/-!
# Tags in front of a container

Players write titles and names into a tag in front of the sound. A tag has a marker, a header of
seven bytes, and a body whose length the header names. The body is a row of frames, each with a
name and a length of its own, and then padding up to its end.

`Tag.extent?` tells how many bytes belong to the tag behind its marker, unless the tag is
malformed. Nothing else about it matters for the sound.

## Design points

* **Three versions.** In version 2 a frame has six bytes in front of its content, in versions 3 and
  4 it has ten. Versions 3 and 4 may begin their body with a header of its own.
* **Only what is certainly wrong is refused:** a frame that is longer than the body, a text in an
  encoding that does not exist, and flags without a meaning.
-/

namespace Playout.Tag

/-- A number in bytes of seven bits each. -/
def sevenBits (bytes : List UInt8) : Nat := bytes.foldl (fun n b => 0x80 * n + b.toNat % 0x80) 0

/-- The bytes with the zeros left out that keep a byte of ones from looking like a marker. -/
def restored : List UInt8 → List UInt8
  | 0xFF :: 0 :: rest => 0xFF :: restored rest
  | b :: rest => b :: restored rest
  | [] => []

/-! ### Frames -/

/-- Capital letters and digits name a frame; anything else is padding. -/
def namesFrame (b : UInt8) : Bool := (0x30 ≤ b && b ≤ 0x39) || (0x41 ≤ b && b ≤ 0x5A)

/-- Bytes of the name of a frame. -/
def nameLength (version : UInt8) : Nat := if version = 2 then 3 else 4

/-- Bytes in front of the content of a frame. -/
def frameHead (version : UInt8) : Nat := if version = 2 then 6 else 10

/-- The length of the content of a frame, after the bytes behind its name. -/
def contentLength (version : UInt8) (bytes : List UInt8) : Nat :=
  if version = 2 then ByteOrder.big.number (bytes.take 3)
  else if version = 3 then ByteOrder.big.number (bytes.take 4)
  else sevenBits (bytes.take 4)

/-- The flags of a frame, after the bytes behind its name. -/
def frameFlags (version : UInt8) (bytes : List UInt8) : UInt64 :=
  if version = 2 then 0 else ByteOrder.big.word ((bytes.drop 4).take 2)

/-- The flags that mean nothing. -/
def unknownFlags (version : UInt8) : UInt64 := if version = 3 then 0x1F1F else 0x8FB0

/-- The names of comments and of lyrics. -/
def remarks : List (List UInt8) :=
  [[0x43, 0x4F, 0x4D], [0x55, 0x4C, 0x54], [0x43, 0x4F, 0x4D, 0x4D], [0x55, 0x53, 0x4C, 0x54]]

/-- Whether the content of a frame begins as its name demands. Names of texts begin with a T; a text
begins with one of four encodings, and a remark with an encoding and a language of three letters. -/
def readableContent (name content : List UInt8) : Bool :=
  let encoded := content.head?.any (· ≤ 3)
  if name.head? = some 0x54 then encoded
  else if name ∈ remarks then encoded && 4 ≤ content.length
  else true

/-- Whether the frames of a body, from a frame on, are well formed. -/
def readableFrames (version : UInt8) (body : List UInt8) : Bool :=
  let name := body.take (nameLength version)
  let behind := body.drop (nameLength version)
  if name.length < nameLength version then false
  else if !name.all namesFrame then true
  else if body.length < frameHead version then false
  else
    let flags := frameFlags version behind
    let length := contentLength version behind
    let rest := body.drop (frameHead version)
    let content := rest.take length
    if flags &&& unknownFlags version ≠ 0 ∨ rest.length < length then false
    else if flags = 0 ∧ !readableContent name content then false
    else if rest.length - length < frameHead version then true
    else readableFrames version (rest.drop length)
termination_by body.length
decreasing_by
  have head : 0 < frameHead version := by unfold frameHead; split <;> decide
  simp only [List.length_drop]
  omega

/-! ### The whole tag -/

/-- The body behind the header that it may begin with, unless that is malformed. -/
def behindBodyHeader (version : UInt8) (body : List UInt8) : Option (List UInt8) :=
  if version = 3 then
    let length := ByteOrder.big.number (body.take 4)
    let checked : Bool := body.drop 4 |>.head?.any (0x80 ≤ ·)
    let taken := if length = 10 ∧ checked then 14 else 10
    if (length = 6 ∨ length = 10) ∧ taken ≤ body.length then some (body.drop taken) else none
  else
    match body.drop 4 with
    | 1 :: flags :: rest =>
      -- Each flag stands for a field with its length in front.
      let fields := ([(0x40, 0), (0x20, 5), (0x10, 1)] : List (UInt8 × Nat)).filter
        fun (flag, _) => flags &&& flag ≠ 0
      fields.foldl (fun rest (_, length) => rest.bind fun rest =>
        if length < rest.length then some (rest.drop (length + 1)) else none) (some rest)
    | _ => none

/-- Whether a body is well formed. -/
def readableBody (version flags : UInt8) (body : List UInt8) : Bool :=
  let body := if flags &&& 0x80 ≠ 0 ∧ version < 4 then restored body else body
  if flags &&& 0x40 ≠ 0 then (behindBodyHeader version body).any (readableFrames version)
  else readableFrames version body

/-- The bytes of a tag behind its marker, none if it is malformed. -/
def extent? : List UInt8 → Option Nat
  | version :: revision :: flags :: a :: b :: c :: d :: rest =>
    let length := sevenBits [a, b, c, d]
    if version < 2 ∨ 4 < version ∨ revision = 0xFF then none
    -- The compression of version 2 is not understood.
    else if version = 2 ∧ flags &&& 0x40 ≠ 0 then none
    else if rest.length < length ∨ !readableBody version flags (rest.take length) then none
    else some (7 + length)
  | _ => none

end Playout.Tag
