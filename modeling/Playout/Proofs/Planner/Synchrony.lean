import Mathlib.Control.Monad.Basic
import Playout.Planner
import Playout.Proofs.Ring.Position
import Playout.Proofs.WaveFormat.Rounding

/-!
# Samples are heard at their time

A timed sample that gets a place is heard at its time up to the tolerance or one frame, whichever
is more, unless it is too early for the tolerance. Then it is moved on from the *hardware's*
position by as much as it is early behind the *queued* bytes, as a rule of the planner has it, and
heard before its time by what is queued between the two. And where that leads round past the play
cursor, which no rule asks for, it is heard a lap too soon for each time it does so; such a place
may lie on bytes that the hardware is playing (`Renderer.Reachable.keepsBehind_iff`).
`anticipation` is the sum of both, and `natAbs_delay_add_anticipation_le` says that nothing else
is off.

The proof follows the four branches of `placeTimed`, which `Placement` lists; each adds the
roundings of `Playout.Proofs.WaveFormat.Rounding` up.
-/

namespace Playout.WritePlanner

variable {p : WritePlanner} {f : WaveFormat} {play size : Nat} {positions : Positions}
  {timing : Timing}

/-! ### The four branches -/

/-- The ways to place a timed sample: the target, the bytes to drop and the gap. -/
inductive Placement (p : WritePlanner) (f : WaveFormat) (play size : Nat) (positions : Positions)
    (timing : Timing) : Nat → Nat → Nat → Prop
  /-- Near enough to its time: right behind the queued bytes. -/
  | inTime (low : -p.tolerance positions ≤ earliness f play size positions timing)
      (high : earliness f play size positions timing ≤ p.tolerance positions) :
      Placement p f play size positions timing positions.sequential 0 0
  /-- Late even at the hardware: its stale beginning is dropped. -/
  | stale (late : earliness f play size positions timing < 0)
      (past : 0 ≤ lateness f play size positions timing) :
      Placement p f play size positions timing positions.minimum
        (f.bytesOfTicks (lateness f play size positions timing)) 0
  /-- Late behind the queued bytes, but not at the hardware: over the queued bytes. -/
  | onto (late : earliness f play size positions timing < 0)
      (ahead : lateness f play size positions timing < 0) :
      Placement p f play size positions timing
        ((positions.minimum + f.bytesOfTicks (-lateness f play size positions timing)) % size) 0
        (f.bytesOfTicks (-lateness f play size positions timing))
  /-- Early: on from the hardware's position by its earliness. -/
  | early (soon : p.tolerance positions < earliness f play size positions timing)
      (later : 0 ≤ earliness f play size positions timing)
      (limit : earliness f play size positions timing < p.maxFill) :
      Placement p f play size positions timing
        ((positions.minimum + f.bytesOfTicks (earliness f play size positions timing)) % size) 0
        (f.bytesOfTicks (earliness f play size positions timing))

/-- A timed plan to write is one of the four placements, up to the play cursor, and keeps below
the limit of what may be queued. -/
theorem placement_of_placeTimed {target free skip gap : Nat}
    (h : p.placeTimed f play size positions timing = .ok (.ready target free skip gap)) :
    Placement p f play size positions timing target skip gap
      ∧ free = distance target play size ∧ f.ticksOfBytes (size - free) < p.maxFill := by
  obtain ⟨delta, computed, h⟩ := Ticks.bind_eq_ok.1 h
  obtain rfl := earliness_of_checked computed
  split at h
  · next near =>
    obtain ⟨rfl, rfl, rfl, rfl, below⟩ := finish_eq_ready (Except.ok.inj h)
    exact ⟨.inTime near.1 near.2, rfl, below⟩
  next far =>
  split at h
  · next late =>
    obtain ⟨past, computed, h⟩ := Ticks.bind_eq_ok.1 h
    obtain rfl := lateness_of_checked computed
    split at h
    · next past =>
      obtain ⟨rfl, rfl, rfl, rfl, below⟩ := finish_eq_ready (Except.ok.inj h)
      exact ⟨.stale late past, rfl, below⟩
    · next ahead =>
      obtain ⟨negative, negated, h⟩ := Ticks.bind_eq_ok.1 h
      obtain ⟨rfl, -⟩ := Ticks.checked_eq_ok.1 negated
      obtain ⟨rfl, rfl, rfl, rfl, below⟩ := finish_eq_ready (skipTo_eq_ok.1 h).1.symm
      exact ⟨.onto late (Int.not_le.1 ahead), rfl, below⟩
  next notLate =>
  split at h
  · cases h
  next limit =>
  obtain ⟨rfl, rfl, rfl, rfl, below⟩ := finish_eq_ready (skipTo_eq_ok.1 h).1.symm
  have soon : p.tolerance positions < earliness f play size positions timing := by
    unfold Ticks at *
    omega
  exact ⟨.early soon (Int.not_lt.1 notLate) (Int.not_le.1 limit), rfl, below⟩

/-- The time at which queued bytes are heard is no sum of offsets. -/
theorem earliness?_ne_offsetSum : earliness? f play size positions timing ≠ .error .offsetSum := by
  intro failed
  rcases Ticks.bind_eq_error.1 failed with failed | ⟨heard, -, failed⟩ <;>
    cases (Ticks.checked_eq_error.1 failed).1

theorem lateness?_ne_offsetSum : lateness? f play size positions timing ≠ .error .offsetSum := by
  intro failed
  rcases Ticks.bind_eq_error.1 failed with failed | ⟨heard, -, failed⟩ <;>
    cases (Ticks.checked_eq_error.1 failed).1

theorem le_of_skipTo {ahead : Nat}
    (failed : p.skipTo f play size positions ahead = .error .offsetSum) :
    0x10000000000000000 ≤ positions.minimum + ahead := by
  rcases Ticks.bind_eq_error.1 failed with failed | ⟨target, -, failed⟩
  · exact (onward?_eq_error.1 failed).2
  · cases failed

/-- The sum for a place is too large only where the place is one over a gap. -/
theorem placement_of_overflow
    (failed : p.placeTimed f play size positions timing = .error .offsetSum) :
    ∃ target gap, Placement p f play size positions timing target 0 gap
      ∧ 0x10000000000000000 ≤ positions.minimum + gap := by
  rcases Ticks.bind_eq_error.1 failed with failed | ⟨delta, computed, failed⟩
  · exact absurd failed earliness?_ne_offsetSum
  obtain rfl := earliness_of_checked computed
  split at failed
  · cases failed
  next far =>
  split at failed
  · next late =>
    rcases Ticks.bind_eq_error.1 failed with failed | ⟨past, computed, failed⟩
    · exact absurd failed lateness?_ne_offsetSum
    obtain rfl := lateness_of_checked computed
    split at failed
    · cases failed
    next ahead =>
    rcases Ticks.bind_eq_error.1 failed with failed | ⟨negative, negated, failed⟩
    · cases (Ticks.checked_eq_error.1 failed).1
    obtain ⟨rfl, -⟩ := Ticks.checked_eq_ok.1 negated
    exact ⟨_, _, .onto late (Int.not_le.1 ahead), le_of_skipTo failed⟩
  next notLate =>
  split at failed
  · cases failed
  next limit =>
  have soon : p.tolerance positions < earliness f play size positions timing := by
    unfold Ticks at *
    omega
  exact ⟨_, _, .early soon (Int.not_lt.1 notLate) (Int.not_le.1 limit), le_of_skipTo failed⟩

/-! ### When the bytes at the target are heard -/

/-- The times and byte counts that planning a sample computes fit their 64-bit words. -/
structure Fits (f : WaveFormat) (play size : Nat) (positions : Positions) (timing : Timing) :
    Prop where
  lap : f.exactTicks size < 0x8000000000000000
  lateness : lateness f play size positions timing < 0x8000000000000000
  fromHardware :
    f.exactBytes (WritePlanner.lateness f play size positions timing).natAbs < 0x10000000000000000
  fromQueued :
    f.exactBytes (earliness f play size positions timing).natAbs < 0x10000000000000000

/-- How much later than at its own time the first kept byte of a placed sample is heard. -/
def delay (f : WaveFormat) (play size : Nat) (timing : Timing) (target skip : Nat) : Ticks :=
  heardAt f timing.now play size target - (timing.writeAt + f.ticksOfBytes skip)

/-- How much too soon a sample is heard for being early. The first part is meant so: it is the time
between the hardware's position, from which an early sample is moved on, and the end of the queued
bytes. The second is not: it is a lap for each time that the place goes round past the play cursor,
where the sample is played before it should be, and may be written over what is being played. -/
def anticipation (p : WritePlanner) (f : WaveFormat) (play size : Nat) (positions : Positions)
    (timing : Timing) : Ticks :=
  let earliness := earliness f play size positions timing
  if p.tolerance positions < earliness then
    heardAt f timing.now play size positions.sequential
      - heardAt f timing.now play size positions.minimum
      + f.exactTicks
        ((distance play positions.minimum size + f.bytesOfTicks earliness) / size * size)
  else 0

variable (valid : f.validate = .ok ()) (fits : Fits f play size positions timing)
include valid fits

/-- Without a wrapped word, an offset is heard its distance from the play cursor later. -/
theorem heardAt_eq (pos : 0 < size) (offset : Nat) :
    heardAt f timing.now play size offset
      = timing.now + f.exactTicks (distance play offset size) := by
  have near := WaveFormat.exactTicks_mono (WaveFormat.byteRate_pos_of_validate valid)
    (Nat.le_of_lt (distance_lt pos play offset))
  have lap := fits.lap
  rw [heardAt, WaveFormat.ticksOfBytes_of_lt (by omega)]

/-- Dropping the stale beginning of a late sample leaves less than a frame of lateness. -/
theorem lateness_sub_skip (past : 0 ≤ lateness f play size positions timing) :
    0 ≤ lateness f play size positions timing
        - f.ticksOfBytes (f.bytesOfTicks (lateness f play size positions timing))
      ∧ lateness f play size positions timing
        - f.ticksOfBytes (f.bytesOfTicks (lateness f play size positions timing))
        < f.exactTicks f.blockAlign := by
  have word := fits.lateness
  obtain ⟨low, high⟩ := WaveFormat.exactTicks_bytesOfTicks valid past fits.fromHardware
  unfold Ticks at *
  rw [WaveFormat.ticksOfBytes_of_lt (by omega)]
  omega

/-- A sample that goes over queued bytes goes before their end, so not round past the play
cursor. -/
theorem distance_over (inside : play < size)
    (late : earliness f play size positions timing < 0)
    (ahead : lateness f play size positions timing < 0) :
    distance play
        ((positions.minimum + f.bytesOfTicks (-lateness f play size positions timing)) % size) size
      = distance play positions.minimum size
        + f.bytesOfTicks (-lateness f play size positions timing) := by
  have rate := WaveFormat.byteRate_pos_of_validate valid
  have pos : 0 < size := by omega
  have queued := heardAt_eq valid fits pos positions.sequential
  have hardware := heardAt_eq valid fits pos positions.minimum
  have bytes := WaveFormat.exactTicks_bytesOfTicks (t := -lateness f play size positions timing)
    valid (by unfold Ticks at *; omega) (by rw [Int.natAbs_neg]; exact fits.fromHardware)
  have whole := WaveFormat.exactTicks_add_le rate (distance play positions.minimum size)
    (f.bytesOfTicks (-lateness f play size positions timing))
  -- The place is heard before the end of the queued bytes, so fewer bytes lead to it.
  have before : distance play positions.minimum size
      + f.bytesOfTicks (-lateness f play size positions timing)
      < distance play positions.sequential size := by
    refine WaveFormat.lt_of_exactTicks_lt rate ?_
    unfold earliness at late
    unfold lateness at *
    unfold Ticks at *
    omega
  have last := distance_lt pos play positions.sequential
  rw [distance_add_mod inside, Nat.mod_eq_of_lt (by omega)]

omit fits in
theorem ticksOfBytes_blockAlign : f.ticksOfBytes f.blockAlign = f.exactTicks f.blockAlign := by
  have second := WaveFormat.exactTicks_blockAlign_le valid
  unfold ticksPerSecond at second
  exact WaveFormat.ticksOfBytes_of_lt (by omega)

omit fits in
theorem ticksOfBytes_zero : f.ticksOfBytes 0 = 0 := by
  have none := WaveFormat.exactTicks_zero (WaveFormat.byteRate_pos_of_validate valid)
  rw [WaveFormat.ticksOfBytes_of_lt (by omega), none]
  rfl

/-- A sample over queued bytes is heard at its time, up to the rounding of its place. -/
theorem delay_over (inside : play < size)
    (late : earliness f play size positions timing < 0)
    (ahead : lateness f play size positions timing < 0) :
    -(f.exactTicks f.blockAlign + 1 : Int) ≤ delay f play size timing
        ((positions.minimum + f.bytesOfTicks (-lateness f play size positions timing)) % size) 0
      ∧ delay f play size timing
        ((positions.minimum + f.bytesOfTicks (-lateness f play size positions timing)) % size) 0
        ≤ 0 := by
  have rate := WaveFormat.byteRate_pos_of_validate valid
  have pos : 0 < size := by omega
  have hardware := heardAt_eq valid fits pos positions.minimum
  have bytes := WaveFormat.exactTicks_bytesOfTicks (t := -lateness f play size positions timing)
    valid (by unfold Ticks at *; omega) (by rw [Int.natAbs_neg]; exact fits.fromHardware)
  have whole := WaveFormat.exactTicks_add_le rate (distance play positions.minimum size)
    (f.bytesOfTicks (-lateness f play size positions timing))
  have parts := WaveFormat.exactTicks_add_ge rate (distance play positions.minimum size)
    (f.bytesOfTicks (-lateness f play size positions timing))
  rw [delay, heardAt_eq valid fits pos, distance_over valid fits inside late ahead,
    ticksOfBytes_zero valid]
  generalize f.bytesOfTicks (-lateness f play size positions timing) = bytes at *
  unfold lateness at *
  unfold Ticks at *
  omega

/-- An early sample is heard at its time less its anticipation, up to the rounding of its
place. -/
theorem delay_early (inside : play < size)
    (soon : p.tolerance positions < earliness f play size positions timing)
    (later : 0 ≤ earliness f play size positions timing) :
    -(f.exactTicks f.blockAlign + 1 : Int) ≤ delay f play size timing
        ((positions.minimum + f.bytesOfTicks (earliness f play size positions timing)) % size) 0
        + anticipation p f play size positions timing
      ∧ delay f play size timing
        ((positions.minimum + f.bytesOfTicks (earliness f play size positions timing)) % size) 0
        + anticipation p f play size positions timing ≤ 1 := by
  have rate := WaveFormat.byteRate_pos_of_validate valid
  have pos : 0 < size := by omega
  have queued := heardAt_eq valid fits pos positions.sequential
  have hardware := heardAt_eq valid fits pos positions.minimum
  have bytes := WaveFormat.exactTicks_bytesOfTicks (t := earliness f play size positions timing)
    valid later fits.fromQueued
  rw [delay, anticipation, if_pos soon, heardAt_eq valid fits pos, distance_add_mod inside,
    ticksOfBytes_zero valid]
  -- `way` leads from the play cursor to the place, `laps` is how much of it are whole laps.
  generalize hway : distance play positions.minimum size
    + f.bytesOfTicks (earliness f play size positions timing) = way
  have split : way % size + way / size * size = way := by
    rw [Nat.mul_comm]
    exact Nat.mod_add_div way size
  generalize way / size * size = laps at split ⊢
  have whole := WaveFormat.exactTicks_add_le rate (distance play positions.minimum size)
    (f.bytesOfTicks (earliness f play size positions timing))
  have parts := WaveFormat.exactTicks_add_ge rate (distance play positions.minimum size)
    (f.bytesOfTicks (earliness f play size positions timing))
  have wholeWay := WaveFormat.exactTicks_add_le rate (way % size) laps
  have partsWay := WaveFormat.exactTicks_add_ge rate (way % size) laps
  rw [split] at wholeWay partsWay
  rw [hway] at whole parts
  generalize f.bytesOfTicks (earliness f play size positions timing) = bytes at *
  unfold earliness at *
  unfold Ticks at *
  omega

/-! ### The rule -/

omit valid fits in
theorem maxLag_ofConfig_nonneg (c : RendererConfig) : 0 ≤ (ofConfig c).maxLag :=
  c.maxLag.toTicks_nonneg

omit valid fits in
theorem tolerance_mem (c : RendererConfig) (positions : Positions) :
    0 ≤ (ofConfig c).tolerance positions
      ∧ (ofConfig c).tolerance positions ≤ (ofConfig c).maxLag := by
  have := maxLag_ofConfig_nonneg c
  unfold tolerance
  unfold Ticks at *
  split <;> omega

omit valid fits in
/-- Only early samples are anticipated. -/
theorem anticipation_of_le
    (notEarly : earliness f play size positions timing ≤ p.tolerance positions) :
    anticipation p f play size positions timing = 0 :=
  if_neg (Int.not_lt.2 notEarly)

omit valid fits in
/-- Nor are early samples behind an empty queue, unless they go round past the play cursor. -/
theorem anticipation_of_empty (empty : positions.sequential = positions.minimum)
    (inside : distance play positions.minimum size
      + f.bytesOfTicks (earliness f play size positions timing) < size)
    (rate : 0 < f.byteRate) :
    anticipation p f play size positions timing = 0 := by
  have none := WaveFormat.exactTicks_zero rate
  rw [anticipation, Nat.div_eq_of_lt inside, Nat.zero_mul, none, empty, Int.sub_self]
  split <;> rfl

/-- The first kept byte of a timed sample is heard at its own time less the sample's anticipation,
up to the tolerance or a frame, whichever is more. -/
theorem natAbs_delay_add_anticipation_le {c : RendererConfig} {target free skip gap : Nat}
    (inside : play < size) (notBefore : 0 ≤ timing.writeAt)
    (ready : (ofConfig c).place f play size positions (some timing)
      = .ok (.ready target free skip gap)) :
    (delay f play size timing target skip
        + anticipation (ofConfig c) f play size positions timing).natAbs
      ≤ max (ofConfig c).maxLag (f.ticksOfBytes f.blockAlign + 1) := by
  have lag := maxLag_ofConfig_nonneg c
  obtain ⟨nonneg, most⟩ := tolerance_mem c positions
  have pos : 0 < size := by omega
  rw [place, if_pos notBefore] at ready
  obtain ⟨placed, -⟩ := placement_of_placeTimed ready
  rw [ticksOfBytes_blockAlign valid]
  cases placed with
  | inTime low high =>
    rw [anticipation_of_le high, delay, ticksOfBytes_zero valid]
    unfold earliness at low high
    unfold Ticks at *
    omega
  | stale late past =>
    have rest := lateness_sub_skip valid fits past
    rw [anticipation_of_le (by unfold Ticks at *; omega), delay]
    unfold lateness at *
    unfold Ticks at *
    omega
  | onto late ahead =>
    have near := delay_over valid fits inside late ahead
    rw [anticipation_of_le (by unfold Ticks at *; omega)]
    unfold Ticks at *
    omega
  | early soon later limit =>
    have near := delay_early valid fits inside soon later
    unfold Ticks at *
    omega

omit valid fits in
/-- A ring whose play cursor is at 44000 and whose hardware has gone round, 80 ms queued, and a
sample meant for 60 ms after them: it goes 70 ms before that, over the queued bytes. -/
theorem delay_of_early_sample_over_queue :
    (44000 < 44100 ∧ (0 : Ticks) ≤ 1400000
      ∧ (ofConfig {}).place (.pcm 44100 1 8) 44000 44100 ⟨3428, 341, false, 0⟩ (some ⟨0, 1400000⟩)
        = .ok (.ready 2987 41013 0 2646))
    ∧ (delay (.pcm 44100 1 8) 44000 44100 ⟨0, 1400000⟩ 2987 0
        + anticipation (ofConfig {}) (.pcm 44100 1 8) 44000 44100 ⟨3428, 341, false, 0⟩
          ⟨0, 1400000⟩).natAbs
      ≤ max (ofConfig {}).maxLag ((WaveFormat.pcm 44100 1 8).ticksOfBytes 1 + 1) := by
  have ready : (ofConfig {}).place (.pcm 44100 1 8) 44000 44100 ⟨3428, 341, false, 0⟩
      (some ⟨0, 1400000⟩) = .ok (.ready 2987 41013 0 2646) := by decide
  exact ⟨⟨by decide, by decide, ready⟩, natAbs_delay_add_anticipation_le rfl
    ⟨by decide, by decide, by decide, by decide⟩ (by decide) (by decide) ready⟩

omit valid fits in
/-- Without the anticipation the rule is wrong: that sample is heard 70 ms before its time. -/
theorem not_natAbs_delay_le :
    ¬ ∀ (c : RendererConfig) (f : WaveFormat) (play size : Nat) (positions : Positions)
      (timing : Timing) (target free skip gap : Nat), f.validate = .ok () →
      f.blockAlign ∣ size → f.blockAlign ∣ play → f.blockAlign ∣ positions.sequential →
      f.blockAlign ∣ positions.minimum → play < size → positions.sequential < size →
      positions.minimum < size →
      distance play positions.minimum size ≤ distance play positions.sequential size →
      Fits f play size positions timing → 0 ≤ timing.writeAt →
      (ofConfig c).place f play size positions (some timing)
        = .ok (.ready target free skip gap) →
      (delay f play size timing target skip).natAbs
        ≤ max (ofConfig c).maxLag (f.ticksOfBytes f.blockAlign + 1) := by
  intro rule
  have near := rule {} (.pcm 44100 1 8) 44000 44100 ⟨3428, 341, false, 0⟩ ⟨0, 1400000⟩ 2987 41013
    0 2646 rfl (by decide) (by decide) (by decide) (by decide) (by decide) (by decide) (by decide)
    (by decide) ⟨by decide, by decide, by decide, by decide⟩ (by decide) (by decide)
  exact absurd near (by decide)

end Playout.WritePlanner
