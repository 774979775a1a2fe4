import Playout.Decimal.Fixed

/-!
# What a renderer counts

Counters are unsigned 64-bit words and wrap. A `StatsReport` is a copy of them with the byte rate
that turns bytes into time.
-/

namespace Playout

/-- Counters of a renderer. -/
structure RenderStats where
  samples : UInt64 := 0
  prerolls : UInt64 := 0
  /-- Bytes put on the ring. -/
  written : UInt64 := 0
  /-- Bytes dropped because they came too late. -/
  skipped : UInt64 := 0
  /-- Bytes left silent in front of early samples. -/
  gap : UInt64 := 0
  /-- Bytes silenced. -/
  zeroed : UInt64 := 0
  underruns : UInt64 := 0
  /-- Waits of a blocked writer. -/
  blocked : UInt64 := 0
  deriving DecidableEq, Repr

namespace RenderStats

def recordSample (s : RenderStats) (preroll : Bool) : RenderStats :=
  { s with
    samples := s.samples + 1
    prerolls := if preroll then s.prerolls + 1 else s.prerolls }

def addWritten (s : RenderStats) (bytes : Nat) : RenderStats :=
  { s with written := s.written + .ofNat bytes }

def addSkipped (s : RenderStats) (bytes : Nat) : RenderStats :=
  { s with skipped := s.skipped + .ofNat bytes }

def addGap (s : RenderStats) (bytes : Nat) : RenderStats :=
  { s with gap := s.gap + .ofNat bytes }

def addZeroed (s : RenderStats) (bytes : Nat) : RenderStats :=
  { s with zeroed := s.zeroed + .ofNat bytes }

def recordUnderrun (s : RenderStats) : RenderStats := { s with underruns := s.underruns + 1 }

def recordBlocked (s : RenderStats) : RenderStats := { s with blocked := s.blocked + 1 }

end RenderStats

/-- The counters at a moment. -/
structure StatsReport where
  counters : RenderStats
  /-- Bytes per second; without any, no times are shown. -/
  byteRate : Nat
  deriving DecidableEq, Repr

def RenderStats.report (s : RenderStats) (byteRate : Nat) : StatsReport := ⟨s, byteRate⟩

namespace StatsReport

/-- The playing time of a counted number of bytes, in milliseconds as a double. -/
def milliseconds (r : StatsReport) (bytes : UInt64) : Float :=
  bytes.toFloat * 1000.0 / (UInt64.ofNat r.byteRate).toFloat

/-- A line about bytes: a label 16 characters wide, the number, and the time with one place. -/
def byteLine (r : StatsReport) (label : String) (bytes : UInt64) : String :=
  let count := label ++ String.ofList (List.replicate (16 - label.length) ' ') ++ " "
    ++ toString bytes.toNat ++ " bytes"
  if r.byteRate = 0 then count ++ "\n"
  else count ++ " (" ++ Decimal.fixed 1 (r.milliseconds bytes) ++ " ms)\n"

/-- The whole report. -/
def text (r : StatsReport) : String :=
  let c := r.counters
  "Render Statistics\n=================\n"
    ++ "Samples received: " ++ toString c.samples.toNat ++ " (" ++ toString c.prerolls.toNat
    ++ " preroll)\n"
    ++ r.byteLine "Written" c.written
    ++ r.byteLine "Skipped (late)" c.skipped
    ++ r.byteLine "Gap (early)" c.gap
    ++ r.byteLine "Zeroed" c.zeroed
    ++ "\n"
    ++ "Underruns: " ++ toString c.underruns.toNat ++ "\n"
    ++ "Blocked waits: " ++ toString c.blocked.toNat ++ "\n"

end StatsReport

end Playout
