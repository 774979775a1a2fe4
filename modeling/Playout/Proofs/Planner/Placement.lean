import Playout.Proofs.Planner.Synchrony

/-!
# Where plans lead

What a plan to write says about its place. There is room up to the play cursor, and what is queued
then plays for less than the limit (`placement_of_place`); the place is right behind the queued
bytes, or as far behind the hardware's position as its gap is long, whole laps left out
(`distance_target`).

Only the place of an early sample can go round past the play cursor, since the limit on what is
queued is kept by the place where it ends up, not by the way to it. Elsewhere a plan keeps behind
the hardware's position (`behind_iff`).
-/

namespace Playout.WritePlanner

variable {p : WritePlanner} {f : WaveFormat} {play size : Nat} {positions : Positions}
  {target free skip gap : Nat}

/-- A plan to write leaves room up to the play cursor, below the limit. It follows the queued bytes,
or is one of the four placements of a timed sample. -/
theorem placement_of_place {timing : Option Timing}
    (ready : p.place f play size positions timing = .ok (.ready target free skip gap)) :
    free = distance target play size ∧ f.ticksOfBytes (size - free) < p.maxFill
      ∧ (target = positions.sequential ∧ skip = 0 ∧ gap = 0
        ∨ ∃ meant, timing = some meant
          ∧ Placement p f play size positions meant target skip gap) := by
  unfold place at ready
  split at ready
  · next meant =>
    split at ready
    · obtain ⟨placed, room, below⟩ := placement_of_placeTimed ready
      exact ⟨room, below, .inr ⟨meant, rfl, placed⟩⟩
    · obtain ⟨rfl, rfl, rfl, rfl, below⟩ := finish_eq_ready (Except.ok.inj ready)
      exact ⟨rfl, below, .inl ⟨rfl, rfl, rfl⟩⟩
  · obtain ⟨rfl, rfl, rfl, rfl, below⟩ := finish_eq_ready (Except.ok.inj ready)
    exact ⟨rfl, below, .inl ⟨rfl, rfl, rfl⟩⟩

/-! ### What fails -/

/-- The computation fails only where a word is too short. -/
def OnlyOverflows (x : Except Fault α) : Prop :=
  ∀ fault, x = .error fault → fault.isOverflow = true

theorem onlyOverflows_bind {x : Except Fault α} {next : α → Except Fault β}
    (first : OnlyOverflows x) (rest : ∀ a, OnlyOverflows (next a)) :
    OnlyOverflows (x >>= next) := by
  intro fault failed
  rcases Ticks.bind_eq_error.1 failed with failed | ⟨a, -, failed⟩
  · exact first fault failed
  · exact rest a fault failed

theorem onlyOverflows_ok (a : α) : OnlyOverflows (.ok a) := nofun

theorem onlyOverflows_checked {fault : Fault} (overflow : fault.isOverflow = true) (t : Ticks) :
    OnlyOverflows (Ticks.checked fault t) := by
  intro fault' failed
  obtain ⟨rfl, -⟩ := Ticks.checked_eq_error.1 failed
  exact overflow

theorem onlyOverflows_skipTo (ahead : Nat) :
    OnlyOverflows (p.skipTo f play size positions ahead) := by
  refine onlyOverflows_bind ?_ fun _ => onlyOverflows_ok _
  intro fault failed
  obtain ⟨rfl, -⟩ := onward?_eq_error.1 failed
  rfl

/-- There is always a place, unless a sum on the way to it is too large for its word. -/
theorem onlyOverflows_place (timing : Option Timing) :
    OnlyOverflows (p.place f play size positions timing) := by
  have heard (now : Ticks) (offset : Nat) : OnlyOverflows (heardAt? f now play size offset) :=
    onlyOverflows_checked rfl _
  unfold place
  split
  · split
    · refine onlyOverflows_bind ?_ fun delta => ?_
      · exact onlyOverflows_bind (heard _ _) fun _ => onlyOverflows_checked rfl _
      split
      · exact onlyOverflows_ok _
      split
      · refine onlyOverflows_bind ?_ fun past => ?_
        · exact onlyOverflows_bind (heard _ _) fun _ => onlyOverflows_checked rfl _
        split
        · exact onlyOverflows_ok _
        · exact onlyOverflows_bind (onlyOverflows_checked rfl _) fun _ => onlyOverflows_skipTo _
      split
      · exact onlyOverflows_ok _
      · exact onlyOverflows_skipTo _
    · exact onlyOverflows_ok _
  · exact onlyOverflows_ok _

/-- A sum of offsets is too large only for a timed sample that goes over a gap. -/
theorem placement_of_overflow_place {timing : Option Timing}
    (failed : p.place f play size positions timing = .error .offsetSum) :
    ∃ meant target gap, timing = some meant
      ∧ Placement p f play size positions meant target 0 gap
      ∧ 0x10000000000000000 ≤ positions.minimum + gap := by
  unfold place at failed
  split at failed
  · next meant =>
    split at failed
    · obtain ⟨target, gap, placed, long⟩ := placement_of_overflow failed
      exact ⟨meant, target, gap, rfl, placed, long⟩
    · cases failed
  · cases failed

/-! ### Where the place is -/

/-- The place is that of the next sequential byte, or its gap behind the hardware's position, whole
laps left out. -/
theorem distance_target (inside : play < size) {timing : Option Timing}
    (below : positions.minimum < size)
    (ready : p.place f play size positions timing = .ok (.ready target free skip gap)) :
    target = positions.sequential ∧ gap = 0
      ∨ target < size
        ∧ distance play target size = (distance play positions.minimum size + gap) % size := by
  have pos : 0 < size := Nat.zero_lt_of_lt inside
  obtain ⟨-, -, ⟨rfl, -, rfl⟩ | ⟨meant, -, placed⟩⟩ := placement_of_place ready
  · exact .inl ⟨rfl, rfl⟩
  cases placed with
  | inTime => exact .inl ⟨rfl, rfl⟩
  | stale => exact .inr ⟨below, (Nat.mod_eq_of_lt (distance_lt pos _ _)).symm⟩
  | onto | early => exact .inr ⟨Nat.mod_lt _ pos, distance_add_mod inside _ _⟩

/-- Of what is written at a place nothing lies in front of the hardware's position, unless the place
went round past the play cursor and stopped short of it. -/
theorem behind_iff (inside : play < size) {timing : Option Timing}
    (below : positions.minimum < size) (queued_below : positions.sequential < size)
    (queued : positions.sequential = play
      ∨ distance play positions.minimum size ≤ distance play positions.sequential size)
    (ready : p.place f play size positions timing = .ok (.ready target free skip gap))
    {len : Nat} (some_bytes : 0 < len) (room : len ≤ free) :
    (∀ k < len, distance play positions.minimum size
        ≤ distance play ((target + k) % size) size)
      ↔ distance play positions.minimum size
        ≤ (distance play positions.minimum size + gap) % size := by
  obtain ⟨rfl, -, -⟩ := placement_of_place ready
  have near := distance_lt (Nat.zero_lt_of_lt inside) play positions.minimum
  rcases distance_target inside below ready with ⟨rfl, rfl⟩ | ⟨target_lt, place⟩
  · -- On the play cursor itself there is no room behind the queued bytes.
    have ahead := queued.resolve_left fun on => by
      rw [on, distance_self] at room
      omega
    refine iff_of_true (fun k lt => ?_) (Nat.le_of_eq (Nat.mod_eq_of_lt near).symm)
    rw [distance_add_of_lt inside queued_below (Nat.lt_of_lt_of_le lt room)]
    omega
  · rw [← place]
    constructor
    · intro behind
      have first := behind 0 some_bytes
      rwa [distance_add_of_lt inside target_lt (Nat.lt_of_lt_of_le some_bytes room),
        Nat.add_zero] at first
    · intro behind k lt
      rw [distance_add_of_lt inside target_lt (Nat.lt_of_lt_of_le lt room)]
      omega

/-! ### Rings whose lap fits its word -/

section

variable (valid : f.validate = .ok ()) (lap : f.exactTicks size < 0x8000000000000000)
  (small : size < 0x8000000000000000)
include valid lap small

omit lap in
/-- A time within a ring is one of a number of bytes that fits its word. -/
theorem exactBytes_lt_of_le_exactTicks {t : Nat} (within : t ≤ f.exactTicks size) :
    f.exactBytes t < 0x10000000000000000 := by
  have rate := WaveFormat.byteRate_pos_of_validate valid
  obtain ⟨-, -, -, -, -, -, -, word⟩ := WaveFormat.of_validate valid
  have lap := WaveFormat.exactTicks_mul_lt rate size
  have part := Nat.mul_le_mul_right f.byteRate within
  refine Nat.not_le.1 fun more => ?_
  rw [WaveFormat.le_exactBytes_iff] at more
  unfold ticksPerSecond at *
  omega

/-- Where a sample goes over queued bytes, the times of the plan fit their words. -/
theorem fits_of_onto (pos : 0 < size) {timing : Timing}
    (late : earliness f play size positions timing < 0)
    (ahead : lateness f play size positions timing < 0) :
    Fits f play size positions timing := by
  have rate := WaveFormat.byteRate_pos_of_validate valid
  have heard (offset : Nat) :
      heardAt f timing.now play size offset
          = timing.now + f.exactTicks (distance play offset size)
        ∧ f.exactTicks (distance play offset size) ≤ f.exactTicks size := by
    have near := WaveFormat.exactTicks_mono rate (Nat.le_of_lt (distance_lt pos play offset))
    exact ⟨by rw [heardAt, WaveFormat.ticksOfBytes_of_lt (by omega)], near⟩
  obtain ⟨queued, queued_le⟩ := heard positions.sequential
  obtain ⟨hardware, hardware_le⟩ := heard positions.minimum
  have word := Int.lt_trans ahead (show (0 : Int) < 0x8000000000000000 by decide)
  -- The sample is meant for a time between the hardware's position and the end of the queue.
  unfold earliness at late
  unfold lateness at ahead
  unfold Ticks at *
  refine ⟨lap, word, ?_, ?_⟩
  · refine exactBytes_lt_of_le_exactTicks valid small ?_
    unfold lateness
    omega
  · refine exactBytes_lt_of_le_exactTicks valid small ?_
    unfold earliness
    omega

/-- A place goes round past the play cursor only if the sample is early: its gap is what plays in
its earliness, which is below the limit. -/
theorem early_of_lap (inside : play < size) {timing : Option Timing}
    (ready : p.place f play size positions timing = .ok (.ready target free skip gap))
    (round : size ≤ distance play positions.minimum size + gap) :
    ∃ meant, timing = some meant
      ∧ p.tolerance positions < earliness f play size positions meant
      ∧ earliness f play size positions meant < p.maxFill
      ∧ gap = f.bytesOfTicks (earliness f play size positions meant) := by
  have pos : 0 < size := Nat.zero_lt_of_lt inside
  have near := distance_lt pos play positions.minimum
  obtain ⟨-, -, ⟨-, -, rfl⟩ | ⟨meant, rfl, placed⟩⟩ := placement_of_place ready
  · omega
  cases placed with
  | inTime => omega
  | stale => omega
  | onto late ahead =>
    have fits := fits_of_onto valid lap small pos late ahead
    have reach := distance_over valid fits inside late ahead
    have last := distance_lt pos play
      ((positions.minimum + f.bytesOfTicks (-lateness f play size positions meant)) % size)
    omega
  | early soon later limit => exact ⟨meant, rfl, soon, limit, rfl⟩

end

end Playout.WritePlanner
