import Playout.Proofs.Session.Progress
import Playout.Proofs.Session.Untimed

/-!
# Room on an empty ring

Once the write position is unset nothing is queued, and the next byte follows the hardware. Its
room is what the lead of the hardware over the play cursor leaves of the ring. Without a lead the
two cursors coincide, and a ring on which nothing waits to be played has as much room as one that
is queued up to the play cursor: none. It counts as full (`Reachable.plan_of_empty_ring`).

A call that finds the ring full waits for the hardware to play. On hardware without a lead that
changes nothing: the cursors move on together, and the call waits for ever (`Starving.receive`).
-/

namespace Playout

/-! ### Planning behind the hardware -/

namespace WritePlanner

variable (p : WritePlanner) (f : WaveFormat) {play minimum size : Nat}

/-- Behind a lead below the limit there is room for all of the ring but the lead. -/
theorem finish_of_lead (inside : play < size) (below : minimum < size) (lead : minimum ≠ play)
    (near : f.ticksOfBytes (distance play minimum size) < p.maxFill) :
    p.finish f play size minimum 0 0
        = .ready minimum (size - distance play minimum size) 0 0
      ∧ 1 ≤ size - distance play minimum size := by
  have lap := distance_add_distance inside below lead
  have short := distance_lt (Nat.zero_lt_of_lt inside) play minimum
  have room : distance minimum play size = size - distance play minimum size := by omega
  have queued : size - (size - distance play minimum size) = distance play minimum size := by omega
  refine ⟨?_, by omega⟩
  unfold finish
  dsimp only
  rw [room, queued, if_neg (Int.not_le.2 near)]

/-- On the play cursor itself there is no room, and the ring counts as full if it can at all. -/
theorem finish_of_no_lead (play size : Nat) :
    p.finish f play size play 0 0
      = if f.ticksOfBytes size < p.maxFill then .ready play 0 0 0 else .blocked .bufferFull := by
  unfold finish
  dsimp only
  rw [distance_self, Nat.sub_zero]
  by_cases never : f.ticksOfBytes size < p.maxFill
  · rw [if_pos never, if_neg (Int.not_le.2 never)]
  · rw [if_neg never, if_pos (Int.not_lt.1 never)]

end WritePlanner

namespace PositionTracker

variable {t t' : PositionTracker}

/-- With no write position left the next byte follows the hardware. -/
theorem Seated.follows_of_unset (seated : t.Seated) {draining : Bool} {positions : Positions}
    (looked : t.refresh draining = (.ok positions, t')) (unset : t'.writePos = none) :
    positions.sequential = positions.minimum := by
  have found := (seated.refresh_inv looked).1
  have kept : t'.writePos
      = (resync draining t.lastPlay t.writePos t.ring.buffer.position.write t.size).2.2 := by
    by_cases armed : t.ring.buffer.armed.cursor = true
    · rw [refresh_of_armed draining armed] at looked
      cases looked
    rw [refresh_of_answering draining seated.pos (by simpa using armed)] at looked
    split at looked
    · cases looked
    · cases looked
      rfl
  subst found
  rcases resync_writePos draining t.lastPlay t.writePos t.ring.buffer.position.write t.size with
    ⟨-, hardware⟩ | still
  · exact hardware
  · cases (kept.symm.trans unset).symm.trans still

end PositionTracker

/-! ### Hardware without a lead -/

/-- The hardware takes no byte before it plays it. -/
def SoundBuffer.Leadless (b : SoundBuffer) : Prop :=
  match b.config.mode with
  | .manual => b.writeAt = b.playAt
  | .realtime => b.bytesIn b.config.writeLead.nanoseconds = 0

/-- Moves both cursors on, or lets time pass. -/
def Disturbance.plays : Disturbance → Bool
  | advance _ | elapse _ => true
  | _ => false

theorem Disturbance.moves_of_plays {act : Disturbance} (plays : act.plays = true) :
    act.moves = true := by
  cases act with
  | advance | elapse => rfl
  | _ => cases plays

namespace SoundBuffer

variable {b : SoundBuffer}

theorem Leadless.position (leadless : b.Leadless) : b.position.write = b.position.play := by
  unfold Leadless at leadless
  unfold SoundBuffer.position
  cases mode : b.config.mode with
  | manual =>
    rw [mode] at leadless
    exact leadless
  | realtime =>
    rw [mode] at leadless
    have lead : b.leadBytes = 0 := by
      unfold leadBytes
      rw [show b.bytesIn b.config.writeLead.nanoseconds = 0 from leadless, Nat.zero_min]
    cases b.anchor with
    | none => rfl
    | some anchor =>
      dsimp only
      rw [lead, Nat.add_zero, Nat.mod_mod]

theorem Leadless.onBuffer (leadless : b.Leadless) {act : Disturbance}
    (plays : act.plays = true) :
    (act.onBuffer b).Leadless := by
  cases act with
  | elapse nanoseconds => exact leadless
  | advance n =>
    unfold Leadless at *
    show (match b.config.mode with
      | .manual => (b.writeAt + n) % b.size = (b.playAt + n) % b.size
      | .realtime => b.bytesIn b.config.writeLead.nanoseconds = 0)
    cases mode : b.config.mode with
    | manual =>
      rw [mode] at leadless
      dsimp only at leadless ⊢
      rw [leadless]
    | realtime =>
      rw [mode] at leadless
      exact leadless
  | _ => cases plays

end SoundBuffer

/-! ### Plans on an empty ring -/

namespace Renderer

variable {r r' : Renderer} {c c' : Connection}

/-- A plan without a time on an empty ring, less than the limit ahead of the play cursor. With a
lead it is a place at the hardware's position with room for the rest of the ring; without one there
is no room, and the ring counts as full unless it never does. -/
theorem Reachable.plan_of_empty_ring (reached : r.Reachable) (connected : r.connection = some c)
    {positions : Positions} {t : PositionTracker}
    (looked : c.tracker.update = (.ok positions, t)) (empty : t.writePos = none)
    (near : c.format.ticksOfBytes (distance t.lastPlay positions.minimum t.size)
      < r.config.maxFill.toTicks) :
    ∃ plan, r.planner.plan c.tracker c.format none = (.ok (plan, positions), t)
      ∧ (positions.minimum ≠ t.lastPlay →
        plan = .ready positions.minimum
            (t.size - distance t.lastPlay positions.minimum t.size) 0 0
          ∧ 1 ≤ t.size - distance t.lastPlay positions.minimum t.size)
      ∧ (positions.minimum = t.lastPlay →
        plan = if c.NeverFull r.config then .ready positions.minimum 0 0 0
          else .blocked .bufferFull) := by
  have formed := reached.wellFormed.connection c connected
  have rate := Nat.ne_of_gt (WaveFormat.byteRate_pos_of_validate formed.valid)
  obtain ⟨seated, size_eq⟩ := formed.seated.refresh false
  rw [show c.tracker.refresh false = (.ok positions, t) from looked] at seated size_eq
  have follows := formed.seated.follows_of_unset looked empty
  have below : positions.minimum < t.size := by
    rw [(formed.seated.refresh_inv looked).1, show t.size = c.tracker.size from size_eq]
    exact formed.seated.spans.position.2
  refine ⟨_, WritePlanner.plan_eq_ok.2 ⟨looked, rate, rfl⟩, ?_, ?_⟩
  · intro lead
    rw [follows]
    exact WritePlanner.finish_of_lead _ _ seated.lastPlay_lt below lead near
  · intro no_lead
    rw [follows, no_lead, WritePlanner.finish_of_no_lead, show t.size = c.tracker.size from size_eq]
    rfl

/-- A ring of ten bytes that counts as full from five bytes on: three bytes ahead of the play cursor
there is room for the other seven. -/
theorem plan_of_three_bytes_lead :
    (tenBytes.disturb (.setCursor 0 3)).Reachable
      ∧ ∃ c positions t plan, (tenBytes.disturb (.setCursor 0 3)).connection = some c
        ∧ c.tracker.update = (.ok positions, t) ∧ t.writePos = none
        ∧ positions.minimum = 3 ∧ t.lastPlay = 0
        ∧ c.format.ticksOfBytes (distance t.lastPlay positions.minimum t.size)
          < (tenBytes.disturb (.setCursor 0 3)).config.maxFill.toTicks
        ∧ (tenBytes.disturb (.setCursor 0 3)).planner.plan c.tracker c.format none
          = (.ok (plan, positions), t)
        ∧ plan = .ready 3 7 0 0 := by
  have reached := reachable_tenBytes.operate (.disturb (.setCursor 0 3))
  obtain ⟨plan, planned, ahead, -⟩ := reached.plan_of_empty_ring rfl rfl rfl (by decide)
  exact ⟨reached, _, _, _, plan, rfl, rfl, rfl, rfl, rfl, by decide, planned,
    (ahead (by decide)).1⟩

/-! ### Streams that starve -/

/-- A running stream without a clock, on hardware without a lead, with nothing queued on a ring
that can count as full. -/
structure Starving (r : Renderer) (c : Connection) : Prop where
  formed : r.WellFormed
  untimed : r.Untimed c
  unset : c.tracker.writePos = none
  leadless : c.tracker.ring.buffer.Leadless
  limited : ¬c.NeverFull r.config

/-- The ring counts as full. -/
theorem Starving.plan_eq (starving : r.Starving c) :
    r.planner.plan c.tracker c.format none
      = (.ok (.blocked .bufferFull, c.tracker.found false c.tracker.ring.buffer.position),
        c.tracker.looked false c.tracker.ring.buffer.position) := by
  have follows : (c.tracker.found false c.tracker.ring.buffer.position).sequential
      = c.tracker.ring.buffer.position.play := by
    unfold PositionTracker.found
    dsimp only
    rw [starving.unset, PositionTracker.resync_none, starving.leadless.position]
  have limited : ¬c.format.ticksOfBytes c.tracker.size < r.planner.maxFill := starving.limited
  rw [starving.untimed.plan_eq, follows, WritePlanner.finish_of_no_lead, if_neg limited]

theorem Starving.disturb (starving : r.Starving c) {act : Disturbance}
    (plays : act.plays = true) :
    ∃ c', (r.disturb act).Starving c' := by
  obtain ⟨c', u, -, -⟩ := starving.untimed.disturb (Disturbance.moves_of_plays plays)
  have there := connection_disturb starving.untimed.connected act
  obtain rfl := Option.some.inj (there.symm.trans u.connected)
  refine ⟨_, starving.formed.apply (.disturb act), u, starving.unset,
    starving.leadless.onBuffer plays, ?_⟩
  rw [(r.persists_disturb act).config_eq]
  exact starving.limited

theorem Starving.disturbAll {acts : List Disturbance} (starving : r.Starving c)
    (plays : acts.all Disturbance.plays = true) :
    ∃ c', (r.disturbAll acts).Starving c' := by
  induction acts generalizing r c with
  | nil => exact ⟨c, starving⟩
  | cons act acts ih =>
    rw [List.all_cons, Bool.and_eq_true] at plays
    obtain ⟨c', starving⟩ := starving.disturb plays.1
    exact ih starving plays.2

theorem Starving.atReading {acts : List Disturbance} (starving : r.Starving c)
    (plays : acts.all Disturbance.plays = true) :
    ∃ c', (r.atReading acts).Starving c' := by
  unfold Renderer.atReading
  split
  · exact ⟨c, starving⟩
  · exact starving.disturbAll plays

/-- A pass finds the ring full and waits; nothing has changed but how much was played. -/
theorem Starving.feedPass (starving : r.Starving c) {acts : List Disturbance}
    (plays : acts.all Disturbance.plays = true) {left : Feed} (more : left.data ≠ [])
    (rest : Schedule) :
    ∃ r' c', r.feedPass left (acts :: rest) = (.wait left, r', rest) ∧ r'.Starving c' := by
  obtain ⟨c', read⟩ := starving.atReading plays
  obtain ⟨outcome, r', passed, ends⟩ := starving.untimed.feedPass read.untimed more rest
  have shape := starving.formed.sameShape_feedPass left (acts :: rest)
  have getsOn := starving.formed.advances_or_stalls more (acts :: rest)
  rw [passed] at shape getsOn
  have limited : ¬r.NeverFull := by
    rintro ⟨c₀, connected, never⟩
    obtain rfl := Option.some.inj (starving.untimed.connected.symm.trans connected)
    exact starving.limited never
  rcases ends with ⟨rfl, -, u⟩ | ⟨place, rfl, rfl, -, -⟩
  · refine ⟨r', _, passed, shape.wellFormed, u, ?_, read.leadless, ?_⟩
    · unfold PositionTracker.looked
      dsimp only
      rw [read.unset, PositionTracker.resync_none]
    · intro never
      exact limited (neverFull_of_dimensions shape.dimensions_eq ⟨_, u.connected, never⟩)
  · -- The place would have no room, so that the pass would not get on.
    have no_room :
        (followingChunk c'.tracker c'.tracker.ring.buffer.position).free = 0 := by
      unfold followingChunk PositionTracker.found
      dsimp only
      rw [read.unset, PositionTracker.resync_none, read.leadless.position, distance_self]
    rw [no_room] at getsOn
    exact absurd (getsOn.resolve_right fun stalls => limited stalls.1) (Nat.lt_irrefl _)

/-- A starving call goes on waiting for as long as the hardware plays. -/
theorem Starving.resumeTurns (starving : r.Starving c) {schedule : Schedule}
    (plays : ∀ acts ∈ schedule, acts.all Disturbance.plays = true) {left : Feed}
    (more : left.data ≠ []) :
    ∃ r' c', Renderer.resumeTurns schedule.length (.waiting (.receive left), r, schedule)
      = (.waiting (.receive left), r', []) ∧ r'.Starving c' := by
  induction schedule generalizing r c with
  | nil => exact ⟨r, c, rfl, starving⟩
  | cons acts schedule ih =>
    have asleep : r.feedWake = none := by
      unfold feedWake
      rw [if_neg (by simp [starving.untimed.taking.2, starving.untimed.running])]
    obtain ⟨r', c', passed, starving⟩ :=
      starving.feedPass (plays acts List.mem_cons_self) more schedule
    have turn : r.resume (.receive left) (acts :: schedule)
        = (.waiting (.receive left), r', schedule) := by
      unfold resume
      dsimp only
      rw [asleep]
      exact feedTurn_of_wait passed
    obtain ⟨r'', c'', waits, starving⟩ :=
      ih starving fun later among => plays later (List.mem_cons_of_mem acts among)
    refine ⟨r'', c'', ?_, starving⟩
    rw [List.length_cons, Renderer.resumeTurns, turn]
    exact waits

/-- On hardware without a lead a call that hands over a sample for an empty ring waits for ever,
with all of the sample left to feed, however much the hardware plays. -/
theorem Starving.receive (starving : r.Starving c) {s : MediaSample} (more : s.data ≠ [])
    (heard : s.preroll = false) (carried : s.format = none) {acts : List Disturbance}
    {schedule : Schedule} (plays : ∀ acts' ∈ acts :: schedule, acts'.all Disturbance.plays = true) :
    ∃ r' c', Renderer.resumeTurns schedule.length (r.receive s (acts :: schedule))
      = (.waiting (.receive ⟨s.data, s.start⟩), r', []) ∧ r'.Starving c' := by
  have taken : (r.take s).2.Starving c := by
    have u := starving.untimed.take s
    rw [take_eq] at u ⊢
    exact ⟨⟨starving.formed.config, starving.formed.connection, starving.formed.memory⟩, u,
      starving.unset, starving.leadless, starving.limited⟩
  have screened : r.screen s = (.ok (.feed ⟨s.data, s.start⟩), (r.take s).2) := by
    unfold screen
    rw [starving.untimed.taking.1, starving.untimed.taking.2,
      if_neg (show ¬(false || false) = true by decide),
      if_neg (by simp [starving.untimed.running]),
      if_neg (by simp [Renderer.connected, starving.untimed.connected]), carried]
    dsimp only
    unfold take
    rw [heard]
    rfl
  obtain ⟨r₁, c₁, passed, starving⟩ := taken.feedPass (plays acts List.mem_cons_self)
    (show Feed.data ⟨s.data, s.start⟩ ≠ [] from more) schedule
  have turn : r.receive s (acts :: schedule)
      = (.waiting (.receive ⟨s.data, s.start⟩), r₁, schedule) := by
    unfold Renderer.receive
    rw [screened]
    exact feedTurn_of_wait passed
  rw [turn]
  exact starving.resumeTurns (fun later among => plays later (List.mem_cons_of_mem acts among)) more

/-- A device that plays in real time without a lead. -/
def leadlessDevice : VirtualDevice where
  config := { mode := .realtime, writeLead := .ofMilliseconds 0 }

/-- The stream of `tenBytes` on hardware without a lead. -/
def leadlessTenBytes : Renderer :=
  Operation.applyAll [.connect (.pcm 1000 1 8), .start 0]
    { unconnected with device := leadlessDevice }

/-- The ring of a stream that has just started is silent and can count as full, and both cursors
are at its first byte. A plan for a byte says that the ring is full, and a call that hands the byte
over waits for ever. -/
theorem starves_without_lead :
    leadlessTenBytes.Reachable ∧ leadlessTenBytes.state = .running ∧ ¬leadlessTenBytes.NeverFull
      ∧ (∃ c t positions, leadlessTenBytes.connection = some c
        ∧ c.tracker.update = (.ok positions, t) ∧ t.writePos = none
        ∧ positions.minimum = t.lastPlay
        ∧ c.format.ticksOfBytes (distance t.lastPlay positions.minimum t.size)
          < leadlessTenBytes.config.maxFill.toTicks
        ∧ leadlessTenBytes.planner.plan c.tracker c.format none
          = (.ok (.blocked .bufferFull, positions), t))
      ∧ ∀ times : List Nat, ∃ r', resumeTurns times.length
          (leadlessTenBytes.receive { data := [1] } ([] :: times.map fun time => [.elapse time]))
        = (.waiting (.receive ⟨[1], none⟩), r', []) := by
  have created : create leadlessDevice unconnected.config
      = .ok { unconnected with device := leadlessDevice } := rfl
  have reached : leadlessTenBytes.Reachable := (Reachable.create created).applyAll _
  have starving : leadlessTenBytes.Starving _ :=
    ⟨reached.wellFormed, ⟨rfl, rfl, rfl, ⟨rfl, rfl⟩, rfl, ⟨by decide, rfl, rfl⟩, rfl⟩, rfl, rfl,
      by decide⟩
  refine ⟨reached, rfl, by decide, ⟨_, _, _, rfl, rfl, rfl, rfl, by decide, starving.plan_eq⟩,
    fun times => ?_⟩
  have plays : ∀ acts ∈ [] :: times.map fun time => [Disturbance.elapse time],
      acts.all Disturbance.plays = true := by
    simp [Disturbance.plays]
  obtain ⟨r', -, waits, -⟩ := starving.receive (s := { data := [1] }) nofun rfl rfl plays
  rw [List.length_map] at waits
  exact ⟨r', waits⟩

end Renderer

end Playout
