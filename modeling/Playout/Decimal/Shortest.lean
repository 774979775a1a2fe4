import Playout.Decimal.Binary64

/-!
# The fewest digits that read back

Among the decimal numbers that are nearer to a double than to any other, `shortestDigits` takes
one with the fewest digits, and of those the nearest. `shortest` writes it without an exponent,
and a whole number without a point.
-/

namespace Playout.Decimal

/-- The numbers that read back as a positive double: those between `low / den` and `high / den`,
the ends included if `closed`. The double itself is `mid / den`. -/
structure Neighbourhood where
  low : Nat
  mid : Nat
  high : Nat
  den : Nat
  closed : Bool
  deriving DecidableEq, Repr

/-- The neighbourhood of `mantissa * 2 ^ exponent`. Below a power of two the next double is only
half as far away. -/
def Neighbourhood.of (mantissa : Nat) (exponent : Int) : Neighbourhood :=
  let (unit, den) := fractionOf 1 exponent
  let below := if mantissa = 0x10000000000000 ∧ -1074 < exponent then 1 else 2
  { low := (4 * mantissa - below) * unit
    mid := 4 * mantissa * unit
    high := (4 * mantissa + 2) * unit
    den := 4 * den
    closed := mantissa % 2 == 0 }

/-- Whether `num / den` reads back. -/
def Neighbourhood.contains (n : Neighbourhood) (num den : Nat) : Bool :=
  let num := num * n.den
  if n.closed then n.low * den ≤ num && num ≤ n.high * den
  else n.low * den < num && num < n.high * den

/-- The grid of whole multiples of `10 ^ exponent`: the multiple of it that reads back, if there
is one, and of two the nearer. -/
def Neighbourhood.onGrid? (n : Neighbourhood) (exponent : Int) : Option Nat :=
  let (unit, parts) :=
    if 0 ≤ exponent then (tenTo exponent.toNat, 1) else (1, tenTo (-exponent).toNat)
  let floor := n.mid * parts / (n.den * unit)
  let down := n.contains (floor * unit) parts
  let up := n.contains ((floor + 1) * unit) parts
  let excess := n.mid * parts - floor * unit * n.den
  if down && up then
    if 2 * excess < n.den * unit then some floor
    else if n.den * unit < 2 * excess then some (floor + 1)
    else if floor % 2 = 0 then some floor else some (floor + 1)
  else if down then some floor
  else if up then some (floor + 1)
  else none

/-- The number of digits in front of the point of `mid / den`; negative for as many zeros behind
it. -/
def Neighbourhood.magnitude (n : Neighbourhood) : Int :=
  if n.den ≤ n.mid then (Nat.toDigits 10 (n.mid / n.den)).length
  else
    match (List.range 400).find? fun zeros => n.den ≤ n.mid * tenTo (zeros + 1) with
    | some zeros => -zeros
    | none => -400

/-- The fewest digits that read back as a positive double, and the power of ten of the last. -/
def shortestDigits (mantissa : Nat) (exponent : Int) : Nat × Int :=
  let n := Neighbourhood.of mantissa exponent
  let grids := (List.range 17).map fun k => n.magnitude - (k + 1 : Nat)
  match grids.findSome? fun grid => (n.onGrid? grid).map (·, grid) with
  | some found => found
  | none => (n.mid / n.den, 0)

/-- `digits * 10 ^ exponent` without an exponent. -/
def positional (digits : Nat) (exponent : Int) : String :=
  if 0 ≤ exponent then toString (digits * tenTo exponent.toNat)
  else
    let places := (-exponent).toNat
    let text := Nat.toDigits 10 digits
    let padded := List.replicate (places + 1 - text.length) '0' ++ text
    let whole := padded.take (padded.length - places)
    let fraction := (padded.drop (padded.length - places)).reverse.dropWhile (· == '0') |>.reverse
    if fraction.isEmpty then String.ofList whole
    else String.ofList whole ++ "." ++ String.ofList fraction

/-- A double in the fewest digits that read back. -/
def shortest (x : Float) : String :=
  match Binary64.ofFloat x with
  | .nan => "NaN"
  | .infinite negative => if negative then "-inf" else "inf"
  | .finite negative mantissa exponent =>
    let text :=
      if mantissa = 0 then "0"
      else
        let (digits, power) := shortestDigits mantissa exponent
        positional digits power
    if negative then "-" ++ text else text

end Playout.Decimal
