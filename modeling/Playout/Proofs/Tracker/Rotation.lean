import Playout.Proofs.Ring.Rotation
import Playout.Proofs.Session.Geometry
import Playout.Proofs.Tracker.FailedLook

/-!
# Going round is not seen

Whatever a tracker and a planner make of a ring, they make of the same ring turned by any number of
offsets, turned by as many (`PositionTracker.Seated.turned`): looks of either kind, plans, writing
where a plan says, and silencing the whole ring. So nothing depends on where on the ring something
lies or where the end of the memory falls.

Distances, numbers of bytes and decisions are the same; offsets and bytes are turned. That holds
also where the hardware refuses.

There is one exception. The place of a sample that is early, or goes over queued bytes, is a sum of
offsets before it is brought onto the ring. A sum that a word holds on one of the two rings only is
a place there, and a fault on the other (`PositionTracker.overflow_of_turning`); that takes a limit
of queued bytes next to what a word counts.
-/

namespace Playout

/-- Positions on a turned ring. -/
def Positions.turn (k size : Nat) (p : Positions) : Positions :=
  { p with sequential := (p.sequential + k) % size, minimum := (p.minimum + k) % size }

/-- A plan for a turned ring. -/
def WritePlan.turn (k size : Nat) : WritePlan → WritePlan
  | ready target free skip gap => ready ((target + k) % size) free skip gap
  | blocked reason => blocked reason

/-- A failure on a turned ring. -/
def Failure.turn (k size : Nat) : Failure → Failure
  | transport e => transport (e.turn k size)
  | fault f => fault f

namespace PositionTracker

/-- The tracker with everything on its ring moved on by `k` offsets. -/
def turn (k : Nat) (t : PositionTracker) : PositionTracker where
  ring := t.ring.turn k
  lastPlay := (t.lastPlay + k) % t.size
  writePos := t.writePos.map fun write => (write + k) % t.size

variable {t : PositionTracker}

@[simp] theorem size_turn (k : Nat) (t : PositionTracker) : (t.turn k).size = t.size := rfl

theorem turn_mk {ring : RingBuffer} {size : Nat} (size_eq : ring.size = size) (lastPlay : Nat)
    (writePos : Option Nat) (k : Nat) :
    turn k ⟨ring, lastPlay, writePos⟩
      = ⟨ring.turn k, (lastPlay + k) % size, writePos.map fun write => (write + k) % size⟩ := by
  subst size_eq
  rfl

/-! ### Looking -/

theorem softwareLead_turn {play write size : Nat} (lt : play < size) (k : Nat) :
    softwareLead ((play + k) % size) ((write + k) % size) size = softwareLead play write size := by
  rw [softwareLead, distance_turn lt, softwareLead]

theorem resync_turn (draining : Bool) {lastPlay size : Nat} (lt : lastPlay < size)
    (writePos : Option Nat) (minimum k : Nat) :
    resync draining ((lastPlay + k) % size) (writePos.map fun write => (write + k) % size)
        ((minimum + k) % size) size
      = (resync draining lastPlay writePos minimum size).map (fun offset => (offset + k) % size)
        (Prod.map id (Option.map fun write => (write + k) % size)) := by
  cases writePos with
  | none => rfl
  | some write =>
    simp only [resync, Option.map_some, softwareLead_turn lt, distance_turn lt]
    split
    · rfl
    split <;> rfl

theorem Seated.refresh_turn (seated : t.Seated) (draining : Bool) (k : Nat) :
    (t.turn k).refresh draining
      = (t.refresh draining).map (carry (Positions.turn k t.size) (Failure.turn k t.size))
        (turn k) := by
  by_cases armed : t.ring.buffer.armed.cursor = true
  · rw [refresh_of_armed draining armed, refresh_of_armed (t := t.turn k) draining armed]
    rfl
  have answering := eq_false_of_ne_true armed
  have size_eq : t.ring.buffer.size = t.ring.size := seated.spans.size_eq
  have position : (t.turn k).ring.buffer.position = t.ring.buffer.position.turn k t.size := by
    rw [turn, RingBuffer.turn, SoundBuffer.position_turn, size_eq]
    rfl
  rw [refresh_of_answering draining seated.pos answering,
    refresh_of_answering (t := t.turn k) draining seated.pos answering]
  simp only [position, found, looked]
  -- Both look from the same cursors, turned: the bytes played, what is silenced, and the decision.
  generalize t.ring.buffer.position = cursor
  have played := distance_turn seated.lastPlay_lt cursor.play k
  have silenced := RingBuffer.fillSilence_turn seated.pos size_eq t.lastPlay
    (distance t.lastPlay cursor.play t.size) k
  have resynced := resync_turn draining seated.lastPlay_lt t.writePos cursor.write k
  have filled := t.ring.size_fillSilence t.lastPlay (distance t.lastPlay cursor.play t.size)
  simp only [turn, Cursor.turn, size] at played silenced resynced filled ⊢
  simp only [RingBuffer.size_turn, played, silenced, resynced]
  rcases result : t.ring.fillSilence t.lastPlay _ with ⟨e | region, ring⟩ <;> rw [result] at filled
  · simp [carry, Failure.turn, turn_mk filled]
  · simp [carry, Positions.turn, turn_mk filled]

/-! ### Writing and silencing -/

theorem Seated.commit_turn (seated : t.Seated) (offset : Nat) (data : List UInt8) (k : Nat) :
    (t.turn k).commit ((offset + k) % t.size) data
      = (t.commit offset data).map
        (carry (Segments.turn k t.size) (TransportError.turn k t.size)) (turn k) := by
  have pos : 0 < t.ring.size := seated.pos
  have written := RingBuffer.write_turn pos seated.spans.size_eq offset data k
  have kept := t.ring.size_write offset data
  unfold PositionTracker.commit
  simp only [turn, size] at written ⊢
  rw [written]
  rcases result : t.ring.write offset data with ⟨e | region, ring⟩ <;> rw [result] at kept
  · simp [carry, turn_mk kept]
  -- The turned region is as long, and ends where the region does, turned.
  obtain rfl := RingBuffer.region_of_write result
  have empty : ((split offset data.length t.ring.size).turn k t.ring.size).isEmpty
      = (split offset data.length t.ring.size).isEmpty := by
    rw [turn_split pos, Segments.isEmpty, Segments.isEmpty, length_split, length_split]
  have stop : ((split offset data.length t.ring.size).turn k t.ring.size).stop t.ring.size
      = ((split offset data.length t.ring.size).stop t.ring.size + k) % t.ring.size := by
    rw [turn_split pos, stop_split pos, stop_split pos, Nat.mod_add_mod, Nat.mod_add_mod,
      Nat.add_right_comm]
  simp only [carry, Prod.map, empty]
  split
  · simp [turn_mk kept]
  · simp [turn_mk kept, stop]

theorem Seated.clear_turn (seated : t.Seated) (k : Nat) :
    (t.turn k).clear = t.clear.map id (turn k) := by
  have silenced := RingBuffer.clear_turn seated.pos seated.spans.size_eq k
  have kept := t.ring.size_clear
  simp only [clear, turn, silenced]
  simp [turn_mk kept, size]

end PositionTracker

/-! ### Planning -/

namespace WritePlanner

variable {p : WritePlanner} {f : WaveFormat} {size play : Nat}

theorem finish_turn {target : Nat} (lt : target < size) (skip gap k : Nat) :
    p.finish f ((play + k) % size) size ((target + k) % size) skip gap
      = (p.finish f play size target skip gap).turn k size := by
  simp only [finish, distance_turn lt]
  split <;> rfl

/-- The places on a ring and on the turned one: the second is the first, turned, or a sum of offsets
fits its word on one of the two rings only. -/
def Turned (k size : Nat) (place turned : Except Fault WritePlan) : Prop :=
  turned = place.map (WritePlan.turn k size)
    ∨ ¬(place = .error .offsetSum ↔ turned = .error .offsetSum)

theorem turned_ok {k : Nat} {plan turned : WritePlan} (same : turned = plan.turn k size) :
    Turned k size (.ok plan) (.ok turned) :=
  .inl (congrArg Except.ok same)

theorem turned_bind {k : Nat} (x : Except Fault α) {next next' : α → Except Fault WritePlan}
    (rest : ∀ a, Turned k size (next a) (next' a)) :
    Turned k size (x >>= next) (x >>= next') := by
  cases x with
  | error => exact .inl rfl
  | ok a => exact rest a

section Place

variable (play_lt : play < size) {positions : Positions}
  (sequential_lt : positions.sequential < size) (minimum_lt : positions.minimum < size)
include play_lt

theorem earliness?_turn (timing : Timing) (k : Nat) :
    earliness? f ((play + k) % size) size (positions.turn k size) timing
      = earliness? f play size positions timing := by
  simp only [earliness?, heardAt?, Positions.turn, distance_turn play_lt]

theorem lateness?_turn (timing : Timing) (k : Nat) :
    lateness? f ((play + k) % size) size (positions.turn k size) timing
      = lateness? f play size positions timing := by
  simp only [lateness?, heardAt?, Positions.turn, distance_turn play_lt]

theorem skipTo_turn (ahead k : Nat) :
    Turned k size (p.skipTo f play size positions ahead)
      (p.skipTo f ((play + k) % size) size (positions.turn k size) ahead) := by
  have behind : ((positions.minimum + k) % size + ahead) % size
      = ((positions.minimum + ahead) % size + k) % size := by
    rw [Nat.mod_add_mod, Nat.mod_add_mod, Nat.add_right_comm]
  have target_lt := Nat.mod_lt (positions.minimum + ahead) (Nat.zero_lt_of_lt play_lt)
  unfold skipTo onward?
  dsimp only [Positions.turn]
  rw [behind]
  -- Either sum may be the one that fits.
  by_cases fits : positions.minimum + ahead < 0x10000000000000000 <;>
    by_cases fits' : (positions.minimum + k) % size + ahead < 0x10000000000000000 <;>
    simp only [fits, fits', if_true, if_false]
  · exact turned_ok (finish_turn target_lt 0 ahead k)
  · exact .inr fun both => nomatch both.2 rfl
  · exact .inr fun both => nomatch both.1 rfl
  · exact .inl rfl

include sequential_lt minimum_lt

omit play_lt in
theorem tolerance_turn (k : Nat) :
    p.tolerance (positions.turn k size) = p.tolerance positions := by
  have coincide : (positions.sequential + k) % size = (positions.minimum + k) % size
      ↔ positions.sequential = positions.minimum :=
    ⟨turn_injective sequential_lt minimum_lt, fun same => same ▸ rfl⟩
  simp only [tolerance, Positions.turn, coincide]

theorem placeTimed_turn (timing : Timing) (k : Nat) :
    Turned k size (p.placeTimed f play size positions timing)
      (p.placeTimed f ((play + k) % size) size (positions.turn k size) timing) := by
  unfold placeTimed
  rw [earliness?_turn play_lt, lateness?_turn play_lt,
    tolerance_turn sequential_lt minimum_lt]
  refine turned_bind _ fun delta => ?_
  split
  · exact turned_ok (finish_turn sequential_lt 0 0 k)
  split
  · refine turned_bind _ fun past => ?_
    split
    · exact turned_ok (finish_turn minimum_lt _ 0 k)
    · exact turned_bind _ fun ahead => skipTo_turn play_lt _ k
  split
  · exact turned_ok rfl
  · exact skipTo_turn play_lt _ k

theorem place_turn (timing : Option Timing) (k : Nat) :
    Turned k size (p.place f play size positions timing)
      (p.place f ((play + k) % size) size (positions.turn k size) timing) := by
  unfold place
  cases timing with
  | none => exact turned_ok (finish_turn sequential_lt 0 0 k)
  | some timing =>
    dsimp only
    split
    · exact placeTimed_turn play_lt sequential_lt minimum_lt timing k
    · exact turned_ok (finish_turn sequential_lt 0 0 k)

end Place

variable {t : PositionTracker}

theorem plan_turn (seated : t.Seated) (timing : Option Timing) (k : Nat) :
    p.plan (t.turn k) f timing
        = (p.plan t f timing).map
          (carry (Prod.map (WritePlan.turn k t.size) (Positions.turn k t.size))
            (Failure.turn k t.size))
          (PositionTracker.turn k)
      ∨ ¬((p.plan t f timing).1 = .error (.fault .offsetSum)
        ↔ (p.plan (t.turn k) f timing).1 = .error (.fault .offsetSum)) := by
  have looked := seated.refresh_turn false k
  unfold plan PositionTracker.update
  rw [looked]
  rcases result : t.refresh false with ⟨e | positions, t'⟩
  · exact .inl rfl
  obtain ⟨rfl, lastPlay⟩ := seated.refresh_inv result
  have size_eq := seated.size_of_refresh result
  have cursor := seated.spans.position
  have sequential_lt : (t.found false t.ring.buffer.position).sequential < t.size :=
    PositionTracker.resync_lt false cursor.2 seated.writePos_lt
  have turned_place := place_turn (p := p) (f := f) cursor.1 sequential_lt cursor.2 timing k
  have turned : (t'.turn k).lastPlay = (t.ring.buffer.position.play + k) % t.size := by
    rw [← lastPlay, ← size_eq]
    rfl
  simp only [Prod.map, carry]
  split
  · exact .inl rfl
  rw [turned, PositionTracker.size_turn, size_eq, lastPlay]
  generalize p.place f ((t.ring.buffer.position.play + k) % t.size) t.size _ timing = place'
    at turned_place ⊢
  generalize p.place f t.ring.buffer.position.play t.size _ timing = place at turned_place ⊢
  rcases turned_place with rfl | parts
  · cases place <;> exact .inl rfl
  · right
    cases place <;> cases place' <;> simp_all

/-- Looks at the hardware, finds the place for the next bytes, and writes as many of `data` there
as there is room for. -/
def fill (p : WritePlanner) (t : PositionTracker) (f : WaveFormat) (timing : Option Timing)
    (data : List UInt8) : Except Failure (WritePlan × Positions) × PositionTracker :=
  match p.plan t f timing with
  | (.error e, t) => (.error e, t)
  | (.ok (.blocked reason, positions), t) => (.ok (.blocked reason, positions), t)
  | (.ok (.ready target free skip gap, positions), t) =>
    match t.commit target (data.take free) with
    | (.error e, t) => (.error (.transport e), t)
    | (.ok _, t) => (.ok (.ready target free skip gap, positions), t)

/-- Writing where a plan says adds no sum of offsets. -/
theorem fill_overflows_iff (timing : Option Timing) (data : List UInt8) :
    (p.fill t f timing data).1 = .error (.fault .offsetSum)
      ↔ (p.plan t f timing).1 = .error (.fault .offsetSum) := by
  unfold fill
  rcases p.plan t f timing with ⟨e | ⟨_ | _, positions⟩, t'⟩
  · rfl
  · dsimp only
    split <;> simp
  · simp

/-- A timed sample goes so far behind the hardware's position that no word holds the sum of the
two. -/
def Overreaches (p : WritePlanner) (t : PositionTracker) (f : WaveFormat)
    (timing : Option Timing) : Prop :=
  let cursor := t.ring.buffer.position
  ∃ meant target gap, timing = some meant
    ∧ Placement p f cursor.play t.size (t.found false cursor) meant target 0 gap
    ∧ 0x10000000000000000 ≤ cursor.write + gap

/-- There is no other sum of offsets that a plan could fail at. -/
theorem overreaches_of_plan (seated : t.Seated) {timing : Option Timing}
    (failed : (p.plan t f timing).1 = .error (.fault .offsetSum)) : Overreaches p t f timing := by
  rcases plan_eq_error (Prod.ext failed rfl) with
    looked | ⟨-, ⟨⟩⟩ | ⟨positions, fault, looked, ⟨⟩, displaced⟩
  · rcases seated.refresh_failed looked with ⟨⟨⟩, -⟩ | ⟨⟨start, count, ⟨⟩⟩, -⟩
  · obtain ⟨rfl, lastPlay⟩ := seated.refresh_inv looked
    rw [lastPlay, seated.size_of_refresh looked] at displaced
    exact placement_of_overflow_place displaced

theorem fill_turn (seated : t.Seated) (timing : Option Timing) (data : List UInt8) (k : Nat) :
    p.fill (t.turn k) f timing data
        = (p.fill t f timing data).map
          (carry (Prod.map (WritePlan.turn k t.size) (Positions.turn k t.size))
            (Failure.turn k t.size))
          (PositionTracker.turn k)
      ∨ ¬((p.fill t f timing data).1 = .error (.fault .offsetSum)
        ↔ (p.fill (t.turn k) f timing data).1 = .error (.fault .offsetSum)) := by
  rw [fill_overflows_iff, fill_overflows_iff]
  refine (plan_turn (p := p) (f := f) seated timing k).imp_left fun planned => ?_
  unfold fill
  rw [planned]
  rcases result : p.plan t f timing with ⟨e | ⟨_ | reason, positions⟩, t'⟩
  · rfl
  · next target free skip gap =>
    have left : t' = (t.refresh false).2 := by rw [← Renderer.refresh_of_plan, result]
    obtain ⟨seated', size_eq⟩ := seated.refresh false
    rw [← left] at seated' size_eq
    have written := seated'.commit_turn target (data.take free) k
    rw [size_eq] at written
    simp only [Prod.map, carry, WritePlan.turn, written]
    rcases t'.commit target (data.take free) with ⟨_ | _, _⟩ <;> rfl
  · rfl

end WritePlanner

namespace PositionTracker

variable {t : PositionTracker}

theorem seated_turn (seated : t.Seated) (k : Nat) : (t.turn k).Seated := by
  have pos := seated.pos
  have size_eq := seated.spans.size_eq
  have inside (offset : Nat) : offset % t.ring.buffer.size < t.size := by
    rw [size_eq]
    exact Nat.mod_lt offset pos
  refine ⟨⟨(SoundBuffer.size_turn k _).trans size_eq, inside _, inside _⟩, Nat.mod_lt _ pos, ?_⟩
  intro write there
  obtain ⟨write, -, rfl⟩ := Option.map_eq_some_iff.1 there
  exact Nat.mod_lt _ pos

/-- A tracker on a turned ring looks and is silenced like the one on the ring itself, turned. It
plans and writes so, too, unless a sum of offsets fails for its place on one of the two rings and
not on the other, and that sum fails only if it is too large for its word. -/
theorem Seated.turned (seated : t.Seated) (k : Nat) :
    (t.turn k).update
        = t.update.map (carry (Positions.turn k t.size) (Failure.turn k t.size)) (turn k)
      ∧ (t.turn k).updateDraining
        = t.updateDraining.map (carry (Positions.turn k t.size) (Failure.turn k t.size)) (turn k)
      ∧ (∀ (p : WritePlanner) (f : WaveFormat) (timing : Option Timing) (data : List UInt8),
        p.fill (t.turn k) f timing data
            = (p.fill t f timing data).map
              (carry (Prod.map (WritePlan.turn k t.size) (Positions.turn k t.size))
                (Failure.turn k t.size))
              (turn k)
          ↔ ((p.fill t f timing data).1 = .error (.fault .offsetSum)
            ↔ (p.fill (t.turn k) f timing data).1 = .error (.fault .offsetSum)))
      ∧ (∀ (p : WritePlanner) (f : WaveFormat) (timing : Option Timing) (data : List UInt8),
        ((p.fill t f timing data).1 = .error (.fault .offsetSum) → p.Overreaches t f timing)
          ∧ ((p.fill (t.turn k) f timing data).1 = .error (.fault .offsetSum) →
            p.Overreaches (t.turn k) f timing))
      ∧ (t.turn k).clear = t.clear.map id (turn k) := by
  refine ⟨seated.refresh_turn false k, seated.refresh_turn true k, fun p f timing data => ?turned,
    fun p f timing data => ?overreaches, seated.clear_turn k⟩
  case turned =>
    constructor
    · intro same
      rw [same]
      rcases p.fill t f timing data with ⟨(_ | _) | _, _⟩ <;> simp [carry, Failure.turn]
    · intro both
      exact (WritePlanner.fill_turn seated timing data k).resolve_right (not_not_intro both)
  case overreaches =>
    rw [WritePlanner.fill_overflows_iff, WritePlanner.fill_overflows_iff]
    exact ⟨WritePlanner.overreaches_of_plan seated,
      WritePlanner.overreaches_of_plan (seated_turn seated k)⟩

/-- Five of seven bytes, which go round the end of a ring of ten. The ring turned by four takes
them in one stretch. -/
theorem turned_off_the_end :
    let buffer : SoundBuffer :=
      { config := { mode := .manual }, bytes := [0, 1, 2, 3, 4, 5, 6, 7, 8, 9], blockAlign := 1,
        frequency := 1000, playAt := 3, writeAt := 5 }
    let t : PositionTracker := { ring := ⟨buffer, 10, 0x80⟩, lastPlay := 1, writePos := some 8 }
    let p : WritePlanner := { maxFill := 90000, maxLag := 0 }
    let filled := p.fill (t.turn 4) (.pcm 1000 1 8) none [11, 12, 13, 14, 15, 16, 17]
    t.Seated
      ∧ filled.1.toOption.map Prod.fst = some (.ready 2 5 0 0)
      ∧ filled.2.ring.buffer.bytes = [6, 7, 11, 12, 13, 14, 15, 3, 4, 5]
      ∧ filled.2.lastPlay = 7 ∧ filled.2.writePos = some 7 := by
  intro buffer t p filled
  have seated : t.Seated := ⟨⟨rfl, by decide, by decide⟩, by decide, by decide⟩
  have turned := ((seated.turned 4).2.2.1 p (.pcm 1000 1 8) none [11, 12, 13, 14, 15, 16, 17]).2
    (by decide)
  simp only [filled, turned]
  exact ⟨seated, by decide, by decide, by decide, by decide⟩

/-- A silent ring of a hundred bytes, with the hardware ten bytes ahead of the play cursor. -/
def tenAhead : PositionTracker where
  ring :=
    { buffer :=
        { config := { mode := .manual }, bytes := List.replicate 100 0, blockAlign := 27,
          frequency := 768000, playAt := 0, writeAt := 10 }
      size := 100
      silence := 0 }

/-- Under the longest limit there is, a sample is meant for some 28000 years ahead. The sum for its
place is fifteen below what no word holds, and on the ring turned by fifty it is above. -/
theorem overflow_of_turning :
    let fill (t : PositionTracker) :=
      (WritePlanner.fill ⟨latestTick, 0⟩ t (.pcm 768000 9 24) (some ⟨0, 8895999263941720487⟩) []).1
    tenAhead.Seated
      ∧ fill tenAhead = .ok (.ready 1 99 0 18446744073709551591, ⟨10, 10, false, 0⟩)
      ∧ fill (tenAhead.turn 50) = .error (.fault .offsetSum) := by
  refine ⟨⟨⟨rfl, by decide, by decide⟩, by decide, by decide⟩, ?_, ?_⟩
  · decide
  · decide

end PositionTracker

end Playout
