import Playout.Text.Record
import Playout.WaveFormat.Timing

/-!
# Settings of a renderer
-/

namespace Playout

/-- What a caller may choose about a renderer. -/
structure RendererConfig where
  /-- Writing waits while this much audio, or more, is queued and not played. -/
  maxFill : Duration := .ofMilliseconds 150
  /-- How far a sample may be off its time without being moved. -/
  maxLag : Duration := .ofMilliseconds 50
  /-- The longest a blocked call waits before it looks again. -/
  waitInterval : Duration := .ofMilliseconds 10
  /-- How much audio the hardware buffer holds. -/
  bufferDuration : Duration := .ofSeconds 1
  deriving DecidableEq, Repr

/-- Why settings are refused. -/
inductive ConfigError
  | noWaitInterval
  | noFill
  | fillExceedsBuffer (maxFill buffer : Duration)
  deriving DecidableEq, Repr

def ConfigError.message : ConfigError → String
  | noWaitInterval => "wait interval must be non-zero"
  | noFill => "max fill must be non-zero"
  | fillExceedsBuffer maxFill buffer =>
    "max fill " ++ maxFill.text ++ " must be shorter than the buffer (" ++ buffer.text ++ ")"

namespace RendererConfig

/-- Checks that the settings fit together. -/
def validate (c : RendererConfig) : Except ConfigError Unit :=
  if c.waitInterval.nanoseconds = 0 then .error .noWaitInterval
  else if c.maxFill.nanoseconds = 0 then .error .noFill
  else if c.bufferDuration.nanoseconds ≤ c.maxFill.nanoseconds then
    .error (.fillExceedsBuffer c.maxFill c.bufferDuration)
  else .ok ()

/-- Bytes of the hardware buffer for a format, whole frames of it. -/
def bufferBytes (c : RendererConfig) (f : WaveFormat) : Nat :=
  f.bytesOfTicks c.bufferDuration.toTicks

/-- All settings, written out. -/
def describe (c : RendererConfig) : String :=
  Text.record "RendererConfig"
    [("max_fill", c.maxFill.text), ("max_lag", c.maxLag.text),
      ("wait_interval", c.waitInterval.text), ("buffer_duration", c.bufferDuration.text)]

theorem validate_eq_ok_iff {c : RendererConfig} :
    c.validate = .ok () ↔ 0 < c.waitInterval.nanoseconds ∧ 0 < c.maxFill.nanoseconds
      ∧ c.maxFill.nanoseconds < c.bufferDuration.nanoseconds := by
  unfold validate
  split
  · simp; omega
  split
  · simp; omega
  split
  · simp; omega
  · simp; omega

end RendererConfig

end Playout
