import Playout.Config
import Playout.Tracker

/-!
# Planning where the next bytes go

The bytes at an offset of the ring will be heard when the play cursor gets there. The planner
compares that time with the time a sample is meant for and answers with a place on the ring:

* near enough to its time, the sample follows the bytes before it;
* late, its stale beginning is dropped, or, if its time is still ahead of the hardware, it goes
  where its time is, over bytes queued before;
* early, it goes that much further on and leaves a gap of silence; much too early, it waits.

Whatever the place, writing waits while too much is queued.

## Design points

* **Nothing is near enough on an empty ring.** While the next byte would follow the hardware
  itself, the tolerance is zero.
* **Sums that no word holds are faults.** `place` answers for any positions as long as the times and
  offsets on the way fit their words; `plan` adds the look at the hardware and the other request
  without an answer, a format without a byte rate.
-/

namespace Playout

/-- Why writing has to wait. -/
inductive BlockReason
  | tooEarly
  | bufferFull
  deriving DecidableEq, Repr

/-- Where the next bytes go. -/
inductive WritePlan
  /-- Drop `skip` bytes of the sample, then write at most `free` bytes from `target` on; `gap`
  bytes were left silent on purpose. -/
  | ready (target free skip gap : Nat)
  | blocked (reason : BlockReason)
  deriving DecidableEq, Repr

/-- The present, and the time a sample is meant for, both as stream time. -/
structure Timing where
  now : Ticks
  writeAt : Ticks
  deriving DecidableEq, Repr

/-- The limits that planning keeps. -/
structure WritePlanner where
  maxFill : Ticks
  maxLag : Ticks
  deriving DecidableEq, Repr

namespace WritePlanner

def ofConfig (c : RendererConfig) : WritePlanner :=
  { maxFill := c.maxFill.toTicks, maxLag := c.maxLag.toTicks }

/-- Writing at `target`, up to the play cursor, unless too much is queued there. -/
def finish (p : WritePlanner) (f : WaveFormat) (play size target skip gap : Nat) : WritePlan :=
  let free := distance target play size
  if p.maxFill ≤ f.ticksOfBytes (size - free) then .blocked .bufferFull
  else .ready target free skip gap

/-- When the bytes at an offset will be heard. -/
def heardAt (f : WaveFormat) (now : Ticks) (play size offset : Nat) : Ticks :=
  now + f.ticksOfBytes (distance play offset size)

/-- How far off its time a sample may stay. -/
def tolerance (p : WritePlanner) (positions : Positions) : Ticks :=
  if positions.sequential = positions.minimum then 0 else p.maxLag

/-- How much later than right behind the queued bytes a sample is meant to be heard. -/
def earliness (f : WaveFormat) (play size : Nat) (positions : Positions) (timing : Timing) :
    Ticks :=
  timing.writeAt - heardAt f timing.now play size positions.sequential

/-- How long ago a sample should have been heard once the hardware gets to its own position. -/
def lateness (f : WaveFormat) (play size : Nat) (positions : Positions) (timing : Timing) :
    Ticks :=
  heardAt f timing.now play size positions.minimum - timing.writeAt

/-- `heardAt` where words hold the times. -/
def heardAt? (f : WaveFormat) (now : Ticks) (play size offset : Nat) : Except Fault Ticks :=
  Ticks.sum? now (f.ticksOfBytes (distance play offset size))

/-- `earliness` where words hold the times. -/
def earliness? (f : WaveFormat) (play size : Nat) (positions : Positions) (timing : Timing) :
    Except Fault Ticks := do
  Ticks.difference? timing.writeAt (← heardAt? f timing.now play size positions.sequential)

/-- `lateness` where words hold the times. -/
def lateness? (f : WaveFormat) (play size : Nat) (positions : Positions) (timing : Timing) :
    Except Fault Ticks := do
  Ticks.difference? (← heardAt? f timing.now play size positions.minimum) timing.writeAt

/-- The offset some bytes on from another one. A word has to hold the sum before it is brought
onto the ring. -/
def onward? (offset ahead size : Nat) : Except Fault Nat :=
  if offset + ahead < 0x10000000000000000 then .ok ((offset + ahead) % size)
  else .error .offsetSum

/-- A place some bytes on from the hardware's position, over a gap of as many. -/
def skipTo (p : WritePlanner) (f : WaveFormat) (play size : Nat) (positions : Positions)
    (ahead : Nat) : Except Fault WritePlan := do
  return p.finish f play size (← onward? positions.minimum ahead size) 0 ahead

/-- The place for a sample that is meant for a time. -/
def placeTimed (p : WritePlanner) (f : WaveFormat) (play size : Nat) (positions : Positions)
    (timing : Timing) : Except Fault WritePlan := do
  let delta ← earliness? f play size positions timing
  if -p.tolerance positions ≤ delta ∧ delta ≤ p.tolerance positions then
    return p.finish f play size positions.sequential 0 0
  else if delta < 0 then
    let past ← lateness? f play size positions timing
    if 0 ≤ past then return p.finish f play size positions.minimum (f.bytesOfTicks past) 0
    else p.skipTo f play size positions (f.bytesOfTicks (← Ticks.negation? past))
  else if p.maxFill ≤ delta then return .blocked .tooEarly
  else p.skipTo f play size positions (f.bytesOfTicks delta)

/-- The place for the next bytes. A sample without a time, or meant for a time before the stream,
follows the bytes before it. -/
def place (p : WritePlanner) (f : WaveFormat) (play size : Nat) (positions : Positions)
    (timing : Option Timing) : Except Fault WritePlan :=
  match timing with
  | some timing =>
    if 0 ≤ timing.writeAt then p.placeTimed f play size positions timing
    else .ok (p.finish f play size positions.sequential 0 0)
  | none => .ok (p.finish f play size positions.sequential 0 0)

/-- Looks at the hardware and finds the place for the next bytes. -/
def plan (p : WritePlanner) (t : PositionTracker) (f : WaveFormat) (timing : Option Timing) :
    Except Failure (WritePlan × Positions) × PositionTracker :=
  match t.update with
  | (.error e, t) => (.error e, t)
  | (.ok positions, t) =>
    if f.byteRate = 0 then (.error (.fault .zeroByteRate), t)
    else
      match p.place f t.lastPlay t.size positions timing with
      | .error fault => (.error (.fault fault), t)
      | .ok plan => (.ok (plan, positions), t)

/-- A plan to write keeps below the limit of what may be queued. -/
theorem finish_eq_ready {p : WritePlanner} {f : WaveFormat} {play size target skip gap : Nat}
    {target' free skip' gap' : Nat}
    (h : p.finish f play size target skip gap = .ready target' free skip' gap') :
    target' = target ∧ free = distance target play size ∧ skip' = skip ∧ gap' = gap
      ∧ f.ticksOfBytes (size - free) < p.maxFill := by
  unfold finish at h
  dsimp only at h
  split at h
  · cases h
  · next full => cases h; exact ⟨rfl, rfl, rfl, rfl, Int.not_le.1 full⟩

/-- A plan is made for the positions that a look has found. -/
theorem plan_eq_ok {p : WritePlanner} {f : WaveFormat} {timing : Option Timing}
    {t t' : PositionTracker} {plan : WritePlan} {positions : Positions} :
    p.plan t f timing = (.ok (plan, positions), t')
      ↔ t.update = (.ok positions, t') ∧ f.byteRate ≠ 0
        ∧ p.place f t'.lastPlay t'.size positions timing = .ok plan := by
  unfold WritePlanner.plan
  constructor
  · intro planned
    split at planned
    · cases planned
    next looked =>
    split at planned
    · cases planned
    next rate =>
    split at planned
    · cases planned
    next placed =>
    cases planned
    exact ⟨looked, rate, placed⟩
  · rintro ⟨looked, rate, placed⟩
    rw [looked]
    dsimp only
    rw [if_neg rate, placed]

/-- Without a plan the look has failed, or there is no place. -/
theorem plan_eq_error {p : WritePlanner} {f : WaveFormat} {timing : Option Timing}
    {t t' : PositionTracker} {failure : Failure}
    (failed : p.plan t f timing = (.error failure, t')) :
    t.update = (.error failure, t') ∨ f.byteRate = 0 ∧ failure = .fault .zeroByteRate
      ∨ ∃ positions fault, t.update = (.ok positions, t') ∧ failure = .fault fault
        ∧ p.place f t'.lastPlay t'.size positions timing = .error fault := by
  unfold WritePlanner.plan at failed
  split at failed
  · next looked =>
    cases failed
    exact .inl looked
  next looked =>
  split at failed
  · next rate =>
    cases failed
    exact .inr (.inl ⟨rate, rfl⟩)
  split at failed
  · next displaced =>
    cases failed
    exact .inr (.inr ⟨_, _, looked, rfl, displaced⟩)
  · cases failed

/-! ### Where words hold the times -/

theorem heardAt_of_checked {f : WaveFormat} {now t : Ticks} {play size offset : Nat}
    (h : heardAt? f now play size offset = .ok t) : t = heardAt f now play size offset :=
  (Ticks.checked_eq_ok.1 h).1

theorem earliness_of_checked {f : WaveFormat} {play size : Nat} {positions : Positions}
    {timing : Timing} {delta : Ticks} (h : earliness? f play size positions timing = .ok delta) :
    delta = earliness f play size positions timing := by
  obtain ⟨t, heard, difference⟩ := Ticks.bind_eq_ok.1 h
  rw [heardAt_of_checked heard] at difference
  exact (Ticks.checked_eq_ok.1 difference).1

theorem lateness_of_checked {f : WaveFormat} {play size : Nat} {positions : Positions}
    {timing : Timing} {past : Ticks} (h : lateness? f play size positions timing = .ok past) :
    past = lateness f play size positions timing := by
  obtain ⟨t, heard, difference⟩ := Ticks.bind_eq_ok.1 h
  rw [heardAt_of_checked heard] at difference
  exact (Ticks.checked_eq_ok.1 difference).1

theorem onward?_eq_ok {offset ahead size target : Nat} :
    onward? offset ahead size = .ok target
      ↔ target = (offset + ahead) % size ∧ offset + ahead < 0x10000000000000000 := by
  unfold onward?
  split <;> simp [*, eq_comm]

theorem onward?_eq_error {offset ahead size : Nat} {e : Fault} :
    onward? offset ahead size = .error e
      ↔ e = .offsetSum ∧ 0x10000000000000000 ≤ offset + ahead := by
  unfold onward?
  split <;> simp_all [eq_comm]

/-- A place over a gap, if no sum on the way to it is too large. -/
theorem skipTo_eq_ok {p : WritePlanner} {f : WaveFormat} {play size ahead : Nat}
    {positions : Positions} {plan : WritePlan} :
    p.skipTo f play size positions ahead = .ok plan
      ↔ plan = p.finish f play size ((positions.minimum + ahead) % size) 0 ahead
        ∧ positions.minimum + ahead < 0x10000000000000000 := by
  unfold skipTo
  rw [Ticks.bind_eq_ok]
  simp only [onward?_eq_ok, and_assoc, exists_eq_left, pure, Except.pure, Except.ok.injEq]
  exact ⟨fun ⟨fits, same⟩ => ⟨same.symm, fits⟩, fun ⟨same, fits⟩ => ⟨fits, same.symm⟩⟩

end WritePlanner

end Playout
