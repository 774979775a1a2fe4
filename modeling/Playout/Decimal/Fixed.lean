import Playout.Decimal.Binary64

/-!
# Numbers with a fixed number of decimal places

The exact value is rounded to the nearest number with so many places, a half to the even digit.
-/

namespace Playout.Decimal

/-- `digits` digits at least, with zeros in front. -/
def zeroPadded (n digits : Nat) : String :=
  let text := Nat.toDigits 10 n
  String.ofList (List.replicate (digits - text.length) '0' ++ text)

/-- `units` counted in steps of `10 ^ -places`. -/
def placesText (units places : Nat) : String :=
  if places = 0 then toString units
  else toString (units / tenTo places) ++ "." ++ zeroPadded (units % tenTo places) places

/-- A double with `places` decimal places. -/
def fixed (places : Nat) (x : Float) : String :=
  match Binary64.ofFloat x with
  | .nan => "NaN"
  | .infinite negative => if negative then "-inf" else "inf"
  | .finite negative mantissa exponent =>
    let (num, den) := fractionOf mantissa exponent
    let text := placesText (roundHalfEven (num * tenTo places) den) places
    if negative then "-" ++ text else text

/-- `text` moved to the right end of a field `width` wide. -/
def rightAligned (width : Nat) (text : String) : String :=
  String.ofList (List.replicate (width - text.length) ' ') ++ text

end Playout.Decimal
