import Playout.Decimal.Binary64

/-!
# Numbers read from text

Whole numbers and doubles as a person writes them. A whole number is an optional sign and digits;
a double may have a point and an exponent, or be one of the words for infinity and for what is not
a number. Nothing else may stand around them, not even blanks.
-/

namespace Playout.Decimal

/-- Why a text is not a number. -/
inductive NumberError
  | emptyWhole
  /-- Something other than a digit stands where a digit should. -/
  | noDigit
  | tooLarge
  | tooSmall
  | emptyDouble
  | noDouble
  deriving DecidableEq, Repr

def NumberError.message : NumberError → String
  | emptyWhole => "cannot parse integer from empty string"
  | noDigit => "invalid digit found in string"
  | tooLarge => "number too large to fit in target type"
  | tooSmall => "number too small to fit in target type"
  | emptyDouble => "cannot parse float from empty string"
  | noDouble => "invalid float literal"

/-- The value of a digit. -/
def digit? (c : Char) : Option Nat := if c.isDigit then some (c.toNat - '0'.toNat) else none

/-- Reads digits behind the number `sofar`, no further than to the first that makes the number
larger than `limit`. -/
def readDigits (limit : Nat) (excess : NumberError) (sofar : Nat) :
    List Char → Except NumberError Nat
  | [] => .ok sofar
  | c :: rest =>
    match digit? c with
    | none => .error .noDigit
    | some d =>
      if limit < 10 * sofar + d then .error excess
      else readDigits limit excess (10 * sofar + d) rest

/-- Digits, at least one. -/
def readSomeDigits (limit : Nat) (excess : NumberError) : List Char → Except NumberError Nat
  | [] => .error .noDigit
  | digits => readDigits limit excess 0 digits

/-- A whole number of a signed word of 64 bits. -/
def readSigned (text : String) : Except NumberError Int :=
  match text.toList with
  | [] => .error .emptyWhole
  | '-' :: digits => (readSomeDigits 0x8000000000000000 .tooSmall digits).map fun n => -(n : Int)
  | '+' :: digits => (readSomeDigits 0x7FFFFFFFFFFFFFFF .tooLarge digits).map Int.ofNat
  | digits => (readSomeDigits 0x7FFFFFFFFFFFFFFF .tooLarge digits).map Int.ofNat

/-- A whole number of an unsigned word of 64 bits. -/
def readUnsigned (text : String) : Except NumberError Nat :=
  match text.toList with
  | [] => .error .emptyWhole
  | '+' :: digits => readSomeDigits 0xFFFFFFFFFFFFFFFF .tooLarge digits
  | digits => readSomeDigits 0xFFFFFFFFFFFFFFFF .tooLarge digits

/-- The number that digits spell; other characters count as zero. -/
def spelled (digits : List Char) : Nat := digits.foldl (fun n c => 10 * n + (digit? c).getD 0) 0

/-- The double nearest to `digits * 10 ^ exponent`. -/
def nearestDouble (digits : Nat) (exponent : Int) : Float :=
  let magnitude := exponent + (Nat.toDigits 10 digits).length
  if digits = 0 ∨ magnitude < -400 then 0.0
  else if 400 < magnitude then 1.0 / 0.0
  else if 0 ≤ exponent then Float.ofScientific (digits * tenTo exponent.toNat) false 0
  else Float.ofScientific digits true (-exponent).toNat

/-- The exponent behind the digits of a double; none stands for zero. -/
def exponent? : List Char → Option Int
  | [] => some 0
  | mark :: rest =>
    if mark != 'e' && mark != 'E' then none
    else
      let (negative, digits) := match rest with
        | '-' :: digits => (true, digits)
        | '+' :: digits => (false, digits)
        | digits => (false, digits)
      if digits.isEmpty || digits.any (!·.isDigit) then none
      else some (if negative then -(spelled digits : Int) else spelled digits)

/-- A double without a sign, in digits. -/
def digitsDouble? (text : List Char) : Option Float :=
  let whole := text.takeWhile Char.isDigit
  let behind := text.dropWhile Char.isDigit
  let (fraction, behind) := match behind with
    | '.' :: behind => (behind.takeWhile Char.isDigit, behind.dropWhile Char.isDigit)
    | behind => ([], behind)
  if whole.isEmpty && fraction.isEmpty then none
  else
    match exponent? behind with
    | none => none
    | some exponent =>
      some (nearestDouble (spelled (whole ++ fraction)) (exponent - fraction.length))

/-- A double without a sign, in words. -/
def wordDouble? (text : List Char) : Option Float :=
  match String.ofList (text.map Char.toLower) with
  | "inf" | "infinity" => some (1.0 / 0.0)
  | "nan" => some (0.0 / 0.0)
  | _ => none

/-- Reads a double. -/
def readDouble (text : String) : Except NumberError Float :=
  let unsigned (text : List Char) : Option Float := (digitsDouble? text).or (wordDouble? text)
  let result := match text.toList with
    | '-' :: rest => (unsigned rest).map (- ·)
    | '+' :: rest => unsigned rest
    | rest => unsigned rest
  match text.toList, result with
  | [], _ => .error .emptyDouble
  | _, some x => .ok x
  | _, none => .error .noDouble

end Playout.Decimal
