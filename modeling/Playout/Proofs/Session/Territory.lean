import Playout.Proofs.Planner.Placement
import Playout.Proofs.Session.Geometry

/-!
# Keeping out of what the hardware plays

The bytes from the play cursor up to the hardware's position are the hardware's: it has taken them
already. While it does not lap what was seen of it, the next sequential byte lies behind them
(`resync_behind`), and so does every place that is planned from there, but for one kind
(`Renderer.Reachable.keepsBehind_iff`): an early sample is moved on from the hardware's position by
its earliness, and where that leads round past the play cursor and stops short of the hardware's
position again, the sample is written over the bytes that the hardware is playing.
-/

namespace Playout

/-- Seen from a byte on the way, what lies ahead is nearer by the way to it. -/
theorem distance_sub_distance {size source via target : Nat} (hs : source < size)
    (hv : via < size) (ht : target < size)
    (le : distance source via size ≤ distance source target size) :
    distance via target size = distance source target size - distance source via size := by
  have near := distance_lt (Nat.zero_lt_of_lt hs) source target
  have between : distance ((source + distance source via size) % size)
      ((source + distance source target size) % size) size = _ :=
    distance_of_lt (Nat.add_le_add_left le source) (by omega)
  rw [add_distance_mod hs hv, add_distance_mod hs ht] at between
  omega

namespace PositionTracker

/-- While the hardware does not lap the play cursor last seen, the next sequential byte is on the
play cursor, a lap ahead, or not in front of the hardware's position. -/
theorem resync_behind {lastPlay play minimum size : Nat} {writePos : Option Nat}
    (last_lt : lastPlay < size) (play_lt : play < size) (minimum_lt : minimum < size)
    (write_lt : ∀ write ∈ writePos, write < size)
    (unlapped : distance lastPlay play size ≤ distance lastPlay minimum size) :
    (resync false lastPlay writePos minimum size).1 = play
      ∨ distance play minimum size
        ≤ distance play (resync false lastPlay writePos minimum size).1 size := by
  have hardware := distance_sub_distance last_lt play_lt minimum_lt unlapped
  have lap := distance_lt (Nat.zero_lt_of_lt last_lt) lastPlay minimum
  cases writePos with
  | none => exact .inr (Nat.le_refl _)
  | some write =>
    have write_lt := write_lt write rfl
    unfold resync
    dsimp only
    rw [if_neg (by simp)]
    split
    · exact .inr (Nat.le_refl _)
    next ahead =>
    unfold softwareLead at ahead
    split at ahead
    · next around =>
      -- The ring is queued up round to where the play cursor was.
      obtain rfl : write = lastPlay := by
        have there := add_distance_mod last_lt write_lt
        rw [around, Nat.add_zero, Nat.mod_eq_of_lt last_lt] at there
        exact there.symm
      by_cases stands : write = play
      · exact .inl stands
      · have rest := distance_add_distance play_lt last_lt stands
        right
        dsimp only
        omega
    · next within =>
      have software := distance_sub_distance last_lt play_lt write_lt (by omega)
      right
      dsimp only
      omega

end PositionTracker

namespace Renderer

variable {r : Renderer} {c : Connection}

/-- Whatever happened to a renderer: while the hardware does not lap the play cursor last seen, what
is written at a planned place keeps out of the bytes between the cursors, unless the place went
round past the play cursor and stopped short of the hardware's position. Only the place of an early
sample goes round, unless there is memory for a ring that plays for longer than a signed word
counts. -/
theorem Reachable.keepsBehind_iff (reached : r.Reachable) (connected : r.connection = some c)
    {timing : Option Timing} {target free skip gap : Nat} {positions : Positions}
    {t : PositionTracker}
    (unlapped : distance c.tracker.lastPlay c.tracker.ring.buffer.position.play c.tracker.size
      ≤ distance c.tracker.lastPlay c.tracker.ring.buffer.position.write c.tracker.size)
    (planned : r.planner.plan c.tracker c.format timing
      = (.ok (.ready target free skip gap, positions), t))
    {len : Nat} (some_bytes : 0 < len) (room : len ≤ free) :
    let play := c.tracker.ring.buffer.position.play
    let lead := distance play positions.minimum c.tracker.size
    ((∀ k < len, lead ≤ distance play ((target + k) % c.tracker.size) c.tracker.size)
        ↔ lead ≤ (lead + gap) % c.tracker.size)
      ∧ (c.tracker.size ≤ lead + gap →
        (0x8000000000000000 ≤ c.format.exactTicks c.tracker.size
          ∧ 0x8000000000000000 < r.device.memory * ticksPerSecond)
        ∨ ∃ meant, timing = some meant
        ∧ r.planner.tolerance positions
          < WritePlanner.earliness c.format play c.tracker.size positions meant
        ∧ WritePlanner.earliness c.format play c.tracker.size positions meant
          < r.config.maxFill.toTicks
        ∧ gap = c.format.bytesOfTicks
          (WritePlanner.earliness c.format play c.tracker.size positions meant)) := by
  have formed := reached.wellFormed
  obtain ⟨valid, seated, size_lt, -⟩ := formed.connection c connected
  obtain ⟨found, place⟩ := seated.plan_inv planned
  obtain ⟨spans, last_lt, write_lt⟩ := seated
  obtain ⟨play_lt, minimum_lt⟩ := spans.position
  have minimum : positions.minimum = c.tracker.ring.buffer.position.write :=
    congrArg Positions.minimum found
  have sequential : positions.sequential = _ := congrArg Positions.sequential found
  have behind := PositionTracker.resync_behind last_lt play_lt minimum_lt write_lt unlapped
  have minimum_lt' : positions.minimum < c.tracker.size := minimum.symm ▸ minimum_lt
  refine ⟨?_, ?_⟩
  · refine WritePlanner.behind_iff play_lt minimum_lt' ?_ ?_ place some_bytes room
    · rw [sequential]
      exact PositionTracker.resync_lt false minimum_lt write_lt
    · rw [sequential, minimum]
      exact behind
  · intro round
    by_cases long : 0x8000000000000000 ≤ c.format.exactTicks c.tracker.size
    · exact .inl ⟨long, formed.memory_of_long_lap connected long⟩
    · exact .inr (WritePlanner.early_of_lap valid (Nat.not_le.1 long) size_lt play_lt place round)

/-- The stream of ten bytes, on a clock, with the hardware some bytes ahead of the play cursor. -/
def bytesAhead (lead : Nat) : Renderer :=
  Operation.applyAll [.disturb (.setCursor 0 lead), .setManualClock 0] tenBytes

/-- Its connection. -/
def bytesAheadConnection (lead : Nat) : Connection := (bytesAhead lead).connection.get rfl

theorem reachable_bytesAhead (lead : Nat) : (bytesAhead lead).Reachable :=
  reachable_tenBytes.applyAll _

theorem connection_bytesAhead (lead : Nat) :
    (bytesAhead lead).connection = some (bytesAheadConnection lead) :=
  (Option.some_get rfl).symm

/-- With the hardware three bytes ahead, a sample meant for a millisecond after them goes there. -/
theorem keepsBehind_of_early_sample :
    let c := bytesAheadConnection 3
    (bytesAhead 3).Reachable ∧ (bytesAhead 3).connection = some c
      ∧ ((bytesAhead 3).planner.plan c.tracker c.format (some ⟨0, 40000⟩)).1
        = .ok (.ready 4 6 0 1, ⟨3, 3, false, 0⟩)
      ∧ ∀ k < 6, distance 0 3 10 ≤ distance 0 ((4 + k) % 10) 10 := by
  have looked : (bytesAheadConnection 3).tracker.update = _ :=
    PositionTracker.refresh_of_answer false ⟨by decide, by decide, rfl⟩
      (show _ = some ⟨0, 3⟩ from rfl)
  have planned : (bytesAhead 3).planner.plan (bytesAheadConnection 3).tracker
      (bytesAheadConnection 3).format (some ⟨0, 40000⟩)
        = (.ok (.ready 4 6 0 1, ⟨3, 3, false, 0⟩),
          (bytesAheadConnection 3).tracker.looked false ⟨0, 3⟩) := by
    exact WritePlanner.plan_eq_ok.2 ⟨looked, by decide, by decide⟩
  refine ⟨reachable_bytesAhead 3, connection_bytesAhead 3, congrArg Prod.fst planned, ?_⟩
  have rule := (reachable_bytesAhead 3).keepsBehind_iff (connection_bytesAhead 3) (by decide)
    planned (show 0 < 6 by decide) (Nat.le_refl 6)
  exact rule.1.2 (by decide)

/-- With the hardware seven bytes ahead, a sample that is meant for 4 ms after them goes round past
the play cursor: it is written over bytes that the hardware has taken and is about to play. -/
theorem overwrites_taken_bytes :
    let c := bytesAheadConnection 7
    (bytesAhead 7).Reachable ∧ (bytesAhead 7).state = .running ∧ (bytesAhead 7).connection = some c
      ∧ (distance c.tracker.lastPlay c.tracker.ring.buffer.position.play c.tracker.size
        ≤ distance c.tracker.lastPlay c.tracker.ring.buffer.position.write c.tracker.size)
      ∧ ((bytesAhead 7).planner.plan c.tracker c.format (some ⟨0, 110000⟩)).1
        = .ok (.ready 1 9 0 4, ⟨7, 7, false, 0⟩)
      ∧ distance c.tracker.ring.buffer.position.play 1 c.tracker.size
        < distance c.tracker.ring.buffer.position.play 7 c.tracker.size
      ∧ ((bytesAhead 7).feedPass ⟨[1, 2, 3], some 110000⟩ [[]]).2.1.tracker.map
          (·.ring.buffer.bytes)
        = some [0x80, 1, 2, 3, 0x80, 0x80, 0x80, 0x80, 0x80, 0x80] := by
  refine ⟨reachable_bytesAhead 7, rfl, connection_bytesAhead 7, by decide, ?_, by decide, ?_⟩
  · have looked : (bytesAheadConnection 7).tracker.update = _ :=
      PositionTracker.refresh_of_answer false ⟨by decide, by decide, rfl⟩
        (show _ = some ⟨0, 7⟩ from rfl)
    exact congrArg Prod.fst (WritePlanner.plan_eq_ok.2 ⟨looked, by decide, by decide⟩)
  · decide

end Renderer

end Playout
