import Playout.Ticks

/-!
# Clocks

A renderer takes its time from a clock: one that somebody turns by hand, or the one that runs with
the machine from zero on.
-/

namespace Playout

/-- A clock that shows what it was set to. -/
structure ManualClock where
  now : Ticks
  deriving DecidableEq, Repr

namespace ManualClock

def set (_ : ManualClock) (ticks : Ticks) : ManualClock := ⟨ticks⟩

/-- Moves the clock by a number of ticks, which may be negative. -/
def advance (c : ManualClock) (ticks : Ticks) : ManualClock := ⟨c.now + ticks⟩

end ManualClock

/-- A clock that runs by itself. -/
structure SystemClock where
  /-- The time since the clock was made. -/
  age : Duration := ⟨0⟩
  deriving DecidableEq, Repr

namespace SystemClock

def now (c : SystemClock) : Ticks := c.age.toTicks

/-- Time passes. -/
def elapse (c : SystemClock) (nanoseconds : Nat) : SystemClock :=
  ⟨⟨c.age.nanoseconds + nanoseconds⟩⟩

theorem now_nonneg (c : SystemClock) : 0 ≤ c.now := c.age.toTicks_nonneg

/-- The clock does not run backwards. -/
theorem now_le_now_elapse (c : SystemClock) (nanoseconds : Nat) :
    c.now ≤ (c.elapse nanoseconds).now :=
  Duration.toTicks_mono (Nat.le_add_right _ _)

end SystemClock

end Playout
