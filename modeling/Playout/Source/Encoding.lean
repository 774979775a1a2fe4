import Playout.WaveFormat.Packing

/-!
# How files store samples

An `Encoding` says how many bytes of a file make a sample and what they mean. Reading gives
left-justified samples (`Sample`): the bits of a shallower sample become the high bits, floating
point samples are scaled so that one is full scale, and companded samples are expanded to 16 bits
first.
-/

namespace Playout

/-- Which byte of a word comes first. -/
inductive ByteOrder
  /-- The least significant. -/
  | little
  /-- The most significant. -/
  | big
  deriving DecidableEq, Repr

/-- The word that bytes spell, at most 64 bits of it. -/
def ByteOrder.word (order : ByteOrder) (bytes : List UInt8) : UInt64 :=
  match order with
  | little => bytes.foldr (fun b w => w <<< 8 ||| b.toUInt64) 0
  | big => bytes.foldl (fun w b => w <<< 8 ||| b.toUInt64) 0

/-- The number that bytes spell. -/
def ByteOrder.number (order : ByteOrder) (bytes : List UInt8) : Nat := (order.word bytes).toNat

/-- How names of encodings end. -/
def ByteOrder.suffix : ByteOrder → String
  | little => "le"
  | big => "be"

/-- How a sample is stored. -/
inductive Encoding
  /-- One byte, with silence at 128. -/
  | unsigned
  /-- Two's complement in so many bytes. -/
  | signed (width : Nat) (order : ByteOrder)
  /-- Floating point in 32 bits. -/
  | single (order : ByteOrder)
  /-- Floating point in 64 bits. -/
  | double (order : ByteOrder)
  /-- Companded to one byte by the A-law. -/
  | aLaw
  /-- Companded to one byte by the mu-law. -/
  | muLaw
  deriving DecidableEq, Repr

namespace Encoding

/-- Bytes per sample. -/
def width : Encoding → Nat
  | unsigned | aLaw | muLaw => 1
  | signed width _ => width
  | single _ => 4
  | double _ => 8

/-- The most bits that a sample can have when it is read. -/
def depth : Encoding → Nat
  | unsigned => 8
  | signed width _ => 8 * width
  | single _ => 32
  | double _ => 64
  | aLaw | muLaw => 16

/-- The short name under which the encoding is known. -/
def name : Encoding → String
  | unsigned => "pcm_u8"
  | signed 1 _ => "pcm_s8"
  | signed width order => "pcm_s" ++ toString (8 * width) ++ order.suffix
  | single order => "pcm_f32" ++ order.suffix
  | double order => "pcm_f64" ++ order.suffix
  | aLaw => "pcm_alaw"
  | muLaw => "pcm_mulaw"

/-- A word of `width` bytes moved to the high end of a sample. -/
def leftJustified (width : Nat) (word : UInt64) : Sample :=
  (word.toUInt32 <<< (8 * (4 - width)).toUInt32).toInt32

/-- A number between minus one and one scaled to a sample, rounded toward zero; what lies beyond
is clipped. -/
def scaled (x : Float) : Sample := (x * 2147483648.0).toInt32

/-- The 16-bit sample that a companded byte stands for. The A-law inverts every other bit; its
segments double from the second on. -/
def expandALaw (byte : UInt8) : Int :=
  let code := (byte ^^^ 0x55).toNat
  let step := code % 16 * 16
  let magnitude := match code / 16 % 8 with
    | 0 => step + 0x8
    | segment + 1 => (step + 0x108) <<< segment
  if code < 128 then -magnitude else magnitude

/-- The mu-law inverts all bits and doubles from segment to segment, around a bias. -/
def expandMuLaw (byte : UInt8) : Int :=
  let code := (byte ^^^ 0xFF).toNat
  let magnitude := ((code % 16 * 8 + 0x84) <<< (code / 16 % 8)) - 0x84
  if code < 128 then magnitude else -magnitude

/-- A 16-bit sample, left-justified. -/
def ofSixteen (x : Int) : Sample := Int32.ofInt (x * 65536)

/-- Reads the bytes of one sample. -/
def decode (e : Encoding) (bytes : List UInt8) : Sample :=
  match e with
  | unsigned => leftJustified 1 (ByteOrder.little.word bytes ^^^ 0x80)
  | signed width order => leftJustified width (order.word bytes)
  | single order => scaled (Float32.ofBits (order.word bytes).toUInt32).toFloat
  | double order => scaled (Float.ofBits (order.word bytes))
  | aLaw => ofSixteen (expandALaw (bytes.headD 0))
  | muLaw => ofSixteen (expandMuLaw (bytes.headD 0))

/-- Reads `count` samples from the front of `bytes`. -/
def decodeMany (e : Encoding) : (count : Nat) → (bytes : List UInt8) → List Sample
  | 0, _ => []
  | count + 1, bytes => e.decode (bytes.take e.width) :: e.decodeMany count (bytes.drop e.width)

@[simp] theorem length_decodeMany (e : Encoding) (count : Nat) (bytes : List UInt8) :
    (e.decodeMany count bytes).length = count := by
  induction count generalizing bytes with
  | zero => rfl
  | succ count ih => simp [decodeMany, ih]

/-- Reading goes on where it stopped. -/
theorem decodeMany_add (e : Encoding) (m n : Nat) (bytes : List UInt8) :
    e.decodeMany (m + n) bytes
      = e.decodeMany m bytes ++ e.decodeMany n (bytes.drop (m * e.width)) := by
  induction m generalizing bytes with
  | zero => simp [decodeMany]
  | succ m ih =>
    rw [show m + 1 + n = (m + n) + 1 by omega, decodeMany, decodeMany, ih, List.drop_drop,
      show e.width + m * e.width = (m + 1) * e.width by rw [Nat.succ_mul, Nat.add_comm]]
    rfl

end Encoding

end Playout
