/-!
# Requests without an answer

Some requests lie outside the arithmetic they ask for: the time of bytes that no second holds, a
place on a ring without bytes, a sample of a width no layout has, a time beyond what a machine word
names. They are faults of the caller, or of the file that asks for them, and are kept apart from
the failures of the hardware.
-/

namespace Playout

/-- A request that the arithmetic of formats, rings and files has no answer for. -/
inductive Fault
  /-- The playing time of bytes at no bytes per second. -/
  | zeroByteRate
  /-- An offset or a distance on a ring that holds no byte. -/
  | emptyRing
  /-- A sample packed into `bytes` bytes, where the widths that exist are 1, 2, 3 and 4. -/
  | sampleWidth (bytes : Nat)
  /-- The time of a frame in a file without frames per second. -/
  | zeroFrameRate
  /-- Integers of no bytes in a file. -/
  | emptyIntegers
  /-- More samples copied into a buffer than it takes. -/
  | smallBuffer
  /-- The time of a chunk of no frames per second. -/
  | zeroRate
  /-- The sum of two times that no signed word holds. -/
  | timeSum
  /-- The difference of two times that no signed word holds. -/
  | timeDifference
  /-- The negative of a time that no signed word holds. -/
  | timeNegation
  /-- The sum of two numbers of bytes that no word holds. -/
  | offsetSum
  deriving DecidableEq, Repr

namespace Fault

def message : Fault → String
  | zeroByteRate => "attempt to divide by zero"
  | emptyRing => "attempt to calculate the remainder with a divisor of zero"
  | sampleWidth bytes =>
    "copy_from_slice: source slice length (4) does not match destination slice length ("
      ++ toString bytes ++ ")"
  | zeroFrameRate => "TimeBase cannot have 0 numerator or denominator"
  | emptyIntegers => "internal error: entered unreachable code"
  | smallBuffer => "assertion failed: self.capacity() >= n_samples"
  | zeroRate => "attempt to divide by zero"
  | timeSum | offsetSum => "attempt to add with overflow"
  | timeDifference => "attempt to subtract with overflow"
  | timeNegation => "attempt to negate with overflow"

/-- Whether a word was too short for a sum, a difference or a negative. -/
def isOverflow : Fault → Bool
  | timeSum | timeDifference | timeNegation | offsetSum => true
  | _ => false

end Fault

end Playout
