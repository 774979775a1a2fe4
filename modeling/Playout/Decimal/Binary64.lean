/-!
# Doubles as exact numbers

A finite double is a whole number times a power of two. Everything that is printed from a double,
or cut from it, starts from that exact value.
-/

namespace Playout.Decimal

/-- A power of ten. -/
def tenTo (exponent : Nat) : Nat := Nat.pow 10 exponent

/-- A power of two. -/
def twoTo (exponent : Nat) : Nat := Nat.pow 2 exponent

theorem twoTo_pos (exponent : Nat) : 0 < twoTo exponent := Nat.pow_pos (by decide)

/-- What the bits of a double say. -/
inductive Binary64
  | nan
  | infinite (negative : Bool)
  /-- `mantissa * 2 ^ exponent`, with a sign of its own for zero; the mantissa has 53 bits or is
  smaller at the least exponent. -/
  | finite (negative : Bool) (mantissa : Nat) (exponent : Int)
  deriving DecidableEq, Repr

/-- Reads the 64 bits of a double. -/
def Binary64.ofBits (bits : Nat) : Binary64 :=
  let negative : Bool := (bits >>> 63) % 2 == 1
  let field : Nat := (bits >>> 52) % 0x800
  let fraction : Nat := bits % 0x10000000000000
  if field = 0x7FF then if fraction = 0 then .infinite negative else .nan
  else if field = 0 then .finite negative fraction (-1074)
  else .finite negative (fraction + 0x10000000000000) ((field : Int) - 1075)

/-- The exact value of a double. -/
def Binary64.ofFloat (x : Float) : Binary64 := ofBits x.toBits.toNat

/-- A fraction of two whole numbers that is `mantissa * 2 ^ exponent`. -/
def fractionOf (mantissa : Nat) (exponent : Int) : Nat × Nat :=
  if 0 ≤ exponent then (mantissa * twoTo exponent.toNat, 1) else (mantissa, twoTo (-exponent).toNat)

theorem fractionOf_den_pos (mantissa : Nat) (exponent : Int) :
    0 < (fractionOf mantissa exponent).2 := by
  unfold fractionOf
  split
  · exact Nat.one_pos
  · exact twoTo_pos _

/-- `num / den` rounded to the nearest whole number, a half to the even one. -/
def roundHalfEven (num den : Nat) : Nat :=
  let whole := num / den
  let twice := 2 * (num % den)
  if twice < den then whole
  else if den < twice then whole + 1
  else if whole % 2 = 0 then whole else whole + 1

/-- Rounding moves a quotient by a half at most. -/
theorem roundHalfEven_near {num den : Nat} (h : 0 < den) :
    2 * num ≤ (2 * roundHalfEven num den + 1) * den
      ∧ 2 * roundHalfEven num den * den ≤ 2 * num + den := by
  have split := Nat.div_add_mod num den
  have lt := Nat.mod_lt num h
  unfold roundHalfEven
  dsimp only
  generalize num / den = q at split ⊢
  generalize num % den = r at split lt ⊢
  subst split
  have e1 : (2 * q + 1) * den = 2 * (den * q) + den := by
    rw [Nat.add_mul, Nat.one_mul, Nat.mul_assoc, Nat.mul_comm q]
  have e2 : (2 * (q + 1) + 1) * den = 2 * (den * q) + 3 * den := by
    rw [show 2 * (q + 1) + 1 = 2 * q + 3 by omega, Nat.add_mul, Nat.mul_assoc, Nat.mul_comm q]
  have e3 : 2 * q * den = 2 * (den * q) := by rw [Nat.mul_assoc, Nat.mul_comm q]
  have e4 : 2 * (q + 1) * den = 2 * (den * q) + 2 * den := by
    rw [show 2 * (q + 1) = 2 * q + 2 by omega, Nat.add_mul, Nat.mul_assoc, Nat.mul_comm q]
  split
  · rw [e1, e3]; omega
  split
  · rw [e2, e4]; omega
  split
  · rw [e1, e3]; omega
  · rw [e2, e4]; omega

end Playout.Decimal
