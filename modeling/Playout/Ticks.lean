import Playout.Fault

/-!
# Time: ticks and durations

Presentation times are integers that count ticks of 100 ns; a `Duration` is a length of time in
nanoseconds. This module provides

* the two units and the 64-bit readings of results that outgrow a machine word;
* sums, differences and negatives of times, which are faults where they outgrow one;
* `Duration.toTicks`, which rounds down and saturates at the latest tick; and
* `Duration.text`, the shortest exact decimal text in the largest unit that leaves a whole part.
-/

namespace Playout

/-- A presentation time, or the span between two of them, in ticks of 100 ns. -/
abbrev Ticks := Int

/-- Ticks in a second. -/
def ticksPerSecond : Nat := 10000000

/-- Ticks in a millisecond. -/
def ticksPerMillisecond : Nat := 10000

/-- The latest tick a signed 64-bit word can name. -/
def latestTick : Nat := 0x7FFFFFFFFFFFFFFF

/-- What a signed 64-bit word keeps of `x`. -/
def wrapSigned (x : Int) : Int := Int.bmod x 0x10000000000000000

/-- What an unsigned 64-bit word keeps of `n`. -/
def wrapUnsigned (n : Nat) : Nat := n % 0x10000000000000000

theorem wrapSigned_of_lt {x : Int} (low : -0x8000000000000000 ≤ x)
    (high : x < 0x8000000000000000) :
    wrapSigned x = x := by
  unfold wrapSigned
  rw [Int.bmod_eq_of_le] <;> omega

theorem wrapUnsigned_of_lt {n : Nat} (h : n < 0x10000000000000000) : wrapUnsigned n = n :=
  Nat.mod_eq_of_lt h

/-! ### Arithmetic that a word holds -/

namespace Ticks

/-- A signed 64-bit word holds the time. -/
def Fits (t : Ticks) : Prop := -0x8000000000000000 ≤ t ∧ t < 0x8000000000000000

instance (t : Ticks) : Decidable t.Fits := inferInstanceAs (Decidable (_ ∧ _))

/-- The time, if a word holds it. -/
def checked (fault : Fault) (t : Ticks) : Except Fault Ticks :=
  if t.Fits then .ok t else .error fault

def sum? (a b : Ticks) : Except Fault Ticks := checked .timeSum (a + b)

def difference? (a b : Ticks) : Except Fault Ticks := checked .timeDifference (a - b)

def negation? (a : Ticks) : Except Fault Ticks := checked .timeNegation (-a)

/-- A computation that succeeds goes on from a result of its first step. -/
theorem bind_eq_ok {x : Except ε α} {next : α → Except ε β} {b : β} :
    (x >>= next) = .ok b ↔ ∃ a, x = .ok a ∧ next a = .ok b := by
  cases x with
  | error e => exact ⟨nofun, fun ⟨_, failed, _⟩ => nomatch failed⟩
  | ok a => exact ⟨fun rest => ⟨a, rfl, rest⟩, fun ⟨_, rfl, rest⟩ => rest⟩

/-- One that fails does so in its first step, or goes on from its result and fails then. -/
theorem bind_eq_error {x : Except ε α} {next : α → Except ε β} {e : ε} :
    (x >>= next) = .error e ↔ x = .error e ∨ ∃ a, x = .ok a ∧ next a = .error e := by
  cases x with
  | error e' => exact ⟨fun failed => .inl (by cases failed; rfl), fun
    | .inl failed => by cases failed; rfl
    | .inr ⟨_, succeeded, _⟩ => nomatch succeeded⟩
  | ok a => exact ⟨fun rest => .inr ⟨a, rfl, rest⟩, fun
    | .inr ⟨_, rfl, rest⟩ => rest⟩

theorem checked_eq_ok {fault : Fault} {t u : Ticks} :
    checked fault t = .ok u ↔ u = t ∧ t.Fits := by
  unfold checked
  split <;> simp [*, eq_comm]

theorem checked_eq_error {fault e : Fault} {t : Ticks} :
    checked fault t = .error e ↔ e = fault ∧ ¬t.Fits := by
  unfold checked
  split <;> simp [*, eq_comm]

end Ticks

/-! ### Durations -/

/-- A length of time. -/
structure Duration where
  nanoseconds : Nat
  deriving DecidableEq, Repr

namespace Duration

def ofSeconds (n : Nat) : Duration := ⟨n * 1000000000⟩

def ofMilliseconds (n : Nat) : Duration := ⟨n * 1000000⟩

/-- The duration of `ticks`; a negative span lasts no time. -/
def ofTicks (ticks : Ticks) : Duration := ⟨ticks.toNat * 100⟩

/-- Whole ticks in the duration, at most `latestTick`. -/
def toTicks (d : Duration) : Ticks := (min (d.nanoseconds / 100) latestTick : Nat)

theorem toTicks_nonneg (d : Duration) : 0 ≤ d.toTicks := Int.natCast_nonneg _

theorem toTicks_mono {a b : Duration} (h : a.nanoseconds ≤ b.nanoseconds) :
    a.toTicks ≤ b.toTicks := by
  have step : a.nanoseconds / 100 ≤ b.nanoseconds / 100 := Nat.div_le_div_right h
  refine Int.ofNat_le.2 ?_
  generalize latestTick = latest
  omega

/-- The digits of `part`, read as a fraction with `places` decimal places, after a point and
without trailing zeros; nothing for a whole number. -/
def fractionText (part places : Nat) : String :=
  let digits := Nat.toDigits 10 part
  let padded := List.replicate (places - digits.length) '0' ++ digits
  let kept := (padded.reverse.dropWhile (· == '0')).reverse
  if part = 0 then "" else "." ++ String.ofList kept

/-- The exact text in the largest of s, ms, µs and ns that has a non-zero whole part. -/
def text (d : Duration) : String :=
  let n := d.nanoseconds
  if 1000000000 ≤ n then
    toString (n / 1000000000) ++ fractionText (n % 1000000000) 9 ++ "s"
  else if 1000000 ≤ n then
    toString (n / 1000000) ++ fractionText (n % 1000000) 6 ++ "ms"
  else if 1000 ≤ n then
    toString (n / 1000) ++ fractionText (n % 1000) 3 ++ "µs"
  else
    toString n ++ "ns"

end Duration

end Playout
