import Playout.Decimal.Binary64
import Playout.Ticks

/-!
# Durations from a number of seconds

A number of seconds is rounded to the nearest nanosecond, a half to the even one. Negative numbers
have no duration, and neither have those whose whole seconds do not fit 64 bits.
-/

namespace Playout

/-- Why a number of seconds has no duration. -/
inductive SecondsError
  | negative
  | outOfRange
  deriving DecidableEq, Repr

def SecondsError.message : SecondsError → String
  | negative => "cannot convert float seconds to Duration: value is negative"
  | outOfRange => "cannot convert float seconds to Duration: value is either too big or NaN"

/-- The duration of an exact number of seconds. -/
def Duration.ofBinary64 : Decimal.Binary64 → Except SecondsError Duration
  | .nan | .infinite false => .error .outOfRange
  | .infinite true => .error .negative
  | .finite negative mantissa exponent =>
    if negative ∧ mantissa ≠ 0 then .error .negative
    else
      let (num, den) := Decimal.fractionOf mantissa exponent
      let nanoseconds := Decimal.roundHalfEven (num * 1000000000) den
      if 0x10000000000000000 * 1000000000 ≤ nanoseconds then .error .outOfRange
      else .ok ⟨nanoseconds⟩

/-- The duration of a number of seconds. -/
def Duration.ofFloat (seconds : Float) : Except SecondsError Duration :=
  ofBinary64 (.ofFloat seconds)

end Playout
