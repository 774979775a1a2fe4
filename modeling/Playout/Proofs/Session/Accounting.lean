import Mathlib.Algebra.GroupWithZero.Nat
import Playout.Proofs.Session.Marks
import Playout.Proofs.Session.Progress
import Playout.Proofs.Session.Settling
import Playout.Proofs.Session.Untimed

/-!
# What becomes of the bytes of a sample

A call that hands over a sample drops its stale bytes and puts the others on the ring, in as many
pieces as there is room for, and counts both. `Handover.Run` is such a call from its first turn on,
whatever happens in its passes and while it waits. At every moment the bytes that it has put on the
ring are those of the sample behind the dropped ones, in order and without a gap, and the counters
say how many they are (`Handover.Run.accounts`).

## Design points

* **A `Put` is what a pass does at its place,** with the bytes of the ring before and after, so that
  what is counted can be compared with what is there.
* **Counters are read at the turns of the call.** They are shared with other calls, which go on
  while this one waits.
* **The invariant is a `Tally`:** it says of the pieces so far how they lie in the sample, and two
  tallies add up where the second begins with what the first has left.
-/

namespace Playout

/-- What a pass does at the place that it has found. -/
structure Put where
  /-- The state of the stream. -/
  state : StreamState
  /-- How many stale bytes of the sample are dropped. -/
  dropped : Nat
  offset : Nat
  data : List UInt8
  /-- The bytes of the ring before this. -/
  before : Option (List UInt8)
  after : Option (List UInt8)
  deriving DecidableEq, Repr

namespace Put

/-- The data, and nothing else, was put on the ring of a running stream, all of it. -/
def Real (p : Put) : Prop :=
  p.state = .running ∧ ∃ bytes, p.before = some bytes ∧ p.data.length ≤ bytes.length
    ∧ p.after = some (overlay bytes p.offset p.data)

end Put

/-! ### Tallies -/

/-- So many bytes of `data` were dropped, all by the first of the puts, and so many of those behind
them were put on the ring. -/
structure Tally (data : List UInt8) (puts : List Put) (skipped written : Nat) : Prop where
  within : skipped + written ≤ data.length
  dropped : (puts.map (·.dropped)).sum = skipped
  first : ∀ p ∈ puts.tail, p.dropped = 0
  committed : puts.flatMap (·.data) = (data.drop skipped).take written
  real : ∀ p ∈ puts, p.Real

namespace Tally

variable {data : List UInt8} {puts puts' : List Put} {skipped skipped' written written' : Nat}

theorem nil (data : List UInt8) : Tally data [] 0 0 :=
  ⟨Nat.zero_le _, rfl, nofun, rfl, nofun⟩

theorem single {p : Put} (within : p.dropped + written ≤ data.length)
    (committed : p.data = (data.drop p.dropped).take written) (real : p.Real) :
    Tally data [p] p.dropped written :=
  ⟨within, by simp, nofun, by simpa using committed, by simpa using real⟩

/-- Without a put nothing was dropped and nothing written. -/
theorem eq_zero (tally : Tally data [] skipped written) : skipped = 0 ∧ written = 0 := by
  have none_skipped : skipped = 0 := tally.dropped.symm
  have none_written := congrArg List.length tally.committed
  have within := tally.within
  simp only [List.flatMap_nil, List.length_nil, List.length_take, List.length_drop]
    at none_written
  omega

theorem dropped_eq_zero (tally : Tally data puts 0 written) : ∀ p ∈ puts, p.dropped = 0 := by
  intro p mem
  exact List.sum_eq_zero_iff_forall_eq_nat.1 tally.dropped _ (List.mem_map_of_mem mem)

/-- A tally goes on with one of what it has left, if that drops nothing or there was no put
before. -/
theorem append (tally : Tally data puts skipped written)
    (later : Tally (data.drop (skipped + written)) puts' skipped' written')
    (fresh : puts = [] ∨ skipped' = 0) :
    Tally data (puts ++ puts') (skipped + skipped') (written + written') := by
  rcases fresh with rfl | rfl
  · obtain ⟨rfl, rfl⟩ := tally.eq_zero
    simpa using later
  have within := tally.within
  have rest := later.within
  rw [List.length_drop] at rest
  refine ⟨by omega, ?_, ?_, ?_, ?_⟩
  · rw [List.map_append, List.sum_append, tally.dropped, later.dropped]
  · cases puts with
    | nil => exact later.first
    | cons p puts =>
      intro q mem
      rcases List.mem_append.1 mem with before | after
      · exact tally.first q before
      · exact later.dropped_eq_zero q after
  · rw [List.flatMap_append, tally.committed, later.committed, Nat.add_zero, List.drop_zero,
      List.take_add, List.drop_drop]
  · intro q mem
    rcases List.mem_append.1 mem with before | after
    · exact tally.real q before
    · exact later.real q after

end Tally

/-! ### Writing -/

/-- Whether another pass follows at once. -/
def PassEnd.isProceed : PassEnd → Bool
  | .proceed _ => true
  | .returned _ | .wait _ => false

/-- A commitment puts all of the data on the ring, or is refused and leaves every byte. -/
theorem PositionTracker.Seated.commit_cases {t : PositionTracker} (seated : t.Seated)
    (offset : Nat) (data : List UInt8) :
    (∃ e t', t.commit offset data = (.error e, t')
        ∧ t'.ring.buffer.bytes = t.ring.buffer.bytes)
      ∨ ∃ t', t.commit offset data = (.ok (split offset data.length t.size), t')
        ∧ t'.ring.buffer.bytes = overlay t.ring.buffer.bytes offset data := by
  have pos := seated.pos
  cases armed : t.ring.buffer.armed.lock with
  | false =>
    have sound : t.view.Sound := ⟨pos, seated.spans.size_eq, armed⟩
    exact .inr ⟨_, t.commit_eq sound offset data, rfl⟩
  | true =>
    unfold PositionTracker.commit RingBuffer.write
    dsimp only
    by_cases empty : (split offset data.length t.ring.size).isEmpty = true
    · obtain rfl := List.eq_nil_of_length_eq_zero ((isEmpty_split_iff pos).1 empty)
      rw [if_pos empty]
      dsimp only
      rw [if_pos empty]
      exact .inr ⟨_, rfl, (overlay_nil _ _).symm⟩
    · rw [if_neg empty, SoundBuffer.lock]
      dsimp only
      rw [if_pos (.inl armed)]
      exact .inl ⟨_, _, rfl, rfl⟩

namespace Renderer

variable {r r' : Renderer} {c : Connection}

/-- The bytes of the ring, if there is one. -/
def ringBytes (r : Renderer) : Option (List UInt8) := r.tracker.map (·.ring.buffer.bytes)

/-- What writing at a place does: it puts bytes on the ring if the call then goes on. -/
def put (r : Renderer) (data : List UInt8) (chunk : Chunk) : Put where
  state := r.state
  dropped := min chunk.skip data.length
  offset := chunk.target
  data := if (r.writeChunk data chunk).1.isProceed then (data.drop chunk.skip).take chunk.free
    else []
  before := r.ringBytes
  after := (r.writeChunk data chunk).2.ringBytes

theorem ringBytes_setTracker (connected : r.connection = some c) (t : PositionTracker) :
    (r.setTracker t).ringBytes = some t.ring.buffer.bytes := by
  unfold ringBytes tracker setTracker
  rw [connected]
  rfl

end Renderer

/-- How a pass ends that has dropped and written so much of what was left. -/
def PassEnd.Leaves (outcome : PassEnd) (left : Feed) (puts : List Put) (skipped written : Nat) :
    Prop :=
  match outcome with
  | .returned (.ok ()) => skipped + written = left.data.length
  | .returned (.error _) => True
  | .wait later => puts = [] ∧ later = left
  | .proceed later => later = ⟨left.data.drop (skipped + written), none⟩

namespace Renderer

variable {r r' : Renderer} {c : Connection}

/-- So much was counted as dropped and as written on the way from one renderer to another. -/
structure Counts (r r' : Renderer) (skipped written : Nat) : Prop where
  skipped_eq : r'.stats.skipped = r.stats.skipped + .ofNat skipped
  written_eq : r'.stats.written = r.stats.written + .ofNat written

theorem counts_of_eq (skipped : r'.stats.skipped = r.stats.skipped)
    (written : r'.stats.written = r.stats.written) :
    r.Counts r' 0 0 :=
  ⟨by simpa using skipped, by simpa using written⟩

theorem Counts.trans {r'' : Renderer} {skipped written skipped' written' : Nat}
    (first : r.Counts r' skipped written) (later : r'.Counts r'' skipped' written') :
    r.Counts r'' (skipped + skipped') (written + written') where
  skipped_eq := by
    rw [later.skipped_eq, first.skipped_eq, UInt64.ofNat_add, UInt64.add_assoc]
  written_eq := by
    rw [later.written_eq, first.written_eq, UInt64.ofNat_add, UInt64.add_assoc]

/-- Writing at a place that has room drops the stale bytes. If any are left, it puts as many as
there is room for on the ring, or is refused and puts none. -/
theorem writeChunk_inv (connected : r.connection = some c) (seated : c.tracker.Seated)
    {chunk : Chunk} (room : chunk.free ≤ c.tracker.size) (data : List UInt8) :
    data.length ≤ chunk.skip ∧ r.writeChunk data chunk
        = (.returned (.ok ()), { r with stats := r.stats.addSkipped data.length })
      ∨ chunk.skip < data.length
        ∧ ((∃ e t, t.ring.buffer.bytes = c.tracker.ring.buffer.bytes
            ∧ r.writeChunk data chunk = (.returned (.error e),
              { r.setTracker t with stats := r.stats.addSkipped chunk.skip }))
          ∨ ∃ written t, written = ((data.drop chunk.skip).take chunk.free).length
            ∧ t.ring.buffer.bytes = overlay c.tracker.ring.buffer.bytes chunk.target
              ((data.drop chunk.skip).take chunk.free)
            ∧ r.writeChunk data chunk = (.proceed ⟨data.drop (chunk.skip + written), none⟩,
              { r.setTracker t with
                stats := (r.stats.addSkipped chunk.skip).addWritten written })) := by
  have committed :=
    seated.commit_cases chunk.target ((data.drop chunk.skip).take chunk.free)
  rcases written : r.writeChunk data chunk with ⟨outcome, r'⟩
  cases Written.of_writeChunk written with
  | stale stale => exact .inl ⟨stale, rfl⟩
  | disconnected fresh disconnected => cases disconnected.symm.trans connected
  | refused c' fresh connected' refused =>
    obtain rfl := Option.some.inj (connected.symm.trans connected')
    rcases committed with ⟨e, t, refused', same⟩ | ⟨t, granted, -⟩
    · cases refused.symm.trans refused'
      exact .inr ⟨fresh, .inl ⟨_, _, same, rfl⟩⟩
    · cases refused.symm.trans granted
  | granted c' fresh connected' granted =>
    obtain rfl := Option.some.inj (connected.symm.trans connected')
    rcases committed with ⟨e, t, refused, -⟩ | ⟨t, granted', bytes⟩
    · cases granted.symm.trans refused
    · have covered := PositionTracker.length_of_commit granted
      cases granted.symm.trans granted'
      rw [Nat.min_eq_left (by rw [List.length_take]; omega)] at covered
      rw [covered, List.drop_drop]
      exact .inr ⟨fresh, .inr ⟨_, _, rfl, bytes, rfl⟩⟩

/-- What a place makes of a sample is tallied and counted. -/
theorem tally_writeChunk (connected : r.connection = some c) (seated : c.tracker.Seated)
    {chunk : Chunk} (room : chunk.free ≤ c.tracker.size) (running : r.state = .running)
    (left : Feed) :
    ∃ skipped written, Tally left.data [r.put left.data chunk] skipped written
      ∧ r.Counts (r.writeChunk left.data chunk).2 skipped written
      ∧ (r.writeChunk left.data chunk).1.Leaves left [r.put left.data chunk] skipped written
      ∧ skipped ≤ chunk.skip := by
  have before : r.ringBytes = some c.tracker.ring.buffer.bytes := by
    rw [ringBytes, tracker_of_connection connected, Option.map_some]
  have length_eq : c.tracker.ring.buffer.bytes.length = c.tracker.size := seated.spans.size_eq
  refine ⟨min chunk.skip left.data.length, ?_⟩
  rcases writeChunk_inv connected seated room left.data with
    ⟨stale, result⟩ | ⟨fresh, ⟨e, t, same, result⟩ | ⟨written, t, rfl, bytes, result⟩⟩
  · rw [put, result]
    refine ⟨0, Tally.single (Nat.min_le_right _ _) rfl ?_, ?_, ?_, Nat.min_le_left _ _⟩
    · exact ⟨running, _, before, Nat.zero_le _, before.trans (congrArg some (overlay_nil _ _).symm)⟩
    · rw [Nat.min_eq_right stale]
      exact ⟨rfl, by simp [RenderStats.addSkipped]⟩
    · exact Nat.min_eq_right stale
  · have after : (r.setTracker t).ringBytes = _ := ringBytes_setTracker connected t
    rw [put, result]
    refine ⟨0, Tally.single (Nat.min_le_right _ _) rfl ?_, ?_, trivial, Nat.min_le_left _ _⟩
    · refine ⟨running, _, before, Nat.zero_le _, after.trans (congrArg some ?_)⟩
      exact same.trans (overlay_nil _ _).symm
    · rw [Nat.min_eq_left (Nat.le_of_lt fresh)]
      exact ⟨rfl, by simp [RenderStats.addSkipped]⟩
  · have after : (r.setTracker t).ringBytes = _ := ringBytes_setTracker connected t
    have fits : ((left.data.drop chunk.skip).take chunk.free).length
        ≤ c.tracker.ring.buffer.bytes.length :=
      length_eq ▸ Nat.le_trans (List.length_take_le ..) room
    rw [put, result]
    refine ⟨((left.data.drop chunk.skip).take chunk.free).length, Tally.single ?_ ?_ ?_, ?_, ?_,
      Nat.min_le_left _ _⟩
    all_goals dsimp only
    all_goals rw [Nat.min_eq_left (Nat.le_of_lt fresh)]
    · rw [List.length_take, List.length_drop]
      omega
    · exact List.prefix_iff_eq_take.1 (List.take_prefix ..)
    · exact ⟨running, _, before, fits, after.trans (congrArg some bytes)⟩
    · exact ⟨rfl, rfl⟩
    · rfl

/-! ### Passes -/

/-- What a pass puts on the ring, if it finds a place. -/
def putOfPass (r : Renderer) (left : Feed) (schedule : Schedule) : Option Put :=
  if left.data.isEmpty ∨ r.state ≠ .running then none
  else
    match r.planChunk left.writeAt schedule with
    | (.ok (some chunk), found, _) => some (found.put left.data chunk)
    | _ => none

theorem stats_disturbAll (r : Renderer) (acts : List Disturbance) :
    (r.disturbAll acts).stats = r.stats := by
  induction acts generalizing r with
  | nil => rfl
  | cons act acts ih =>
    refine (ih _).trans ?_
    rcases r with ⟨_, _, _, _ | c⟩ <;> cases act <;> rfl

theorem stats_of_look {schedule rest : Schedule}
    {work : Connection → Except Failure α × PositionTracker} {answer : Except RenderError α}
    (looked : r.look schedule work = (answer, r', rest)) :
    r'.stats = r.stats := by
  have disturbed (acts : List Disturbance) : (r.atReading acts).stats = r.stats := by
    unfold atReading
    split
    · rfl
    · exact r.stats_disturbAll acts
  cases Looked.of_look looked with
  | unscheduled => rfl
  | disconnected acts | failed acts | found acts => exact disturbed acts

/-- Planning neither drops nor writes. -/
theorem counts_of_planChunk {writeAt : Option Ticks} {schedule rest : Schedule}
    {chunk : Except RenderError (Option Chunk)}
    (planned : r.planChunk writeAt schedule = (chunk, r', rest)) :
    r.Counts r' 0 0 := by
  cases Planned.of_planChunk planned with
  | overflow | disconnected => exact counts_of_eq rfl rfl
  | failed _ looked =>
    have same := stats_of_look looked
    exact counts_of_eq (congrArg _ same) (congrArg _ same)
  | found _ looked stats skipped written =>
    rw [stats_of_look looked] at skipped written
    exact counts_of_eq skipped written

/-- A sample without a time is not stale. -/
theorem skip_of_untimed {schedule rest : Schedule} {chunk : Chunk}
    (planned : r.planChunk none schedule = (.ok (some chunk), r', rest)) :
    chunk.skip = 0 := by
  obtain ⟨acts, c, timing, plan, positions, t, timed, -, -, worked, -, place⟩ :=
    planChunk_inv planned
  obtain rfl := untimed_of_timing timed
  cases plan with
  | blocked => cases place
  | ready target free skip gap =>
    cases place
    obtain ⟨-, -, placed⟩ := WritePlanner.plan_eq_ok.1 worked
    obtain ⟨-, -, ⟨-, fresh, -⟩ | ⟨_, ⟨⟩, -⟩⟩ := WritePlanner.placement_of_place placed
    exact fresh

/-- A place has room for as much as the ring holds at most. -/
theorem WellFormed.room_of_planChunk (formed : r.WellFormed) {writeAt : Option Ticks}
    {schedule rest : Schedule} {chunk : Chunk}
    (planned : r.planChunk writeAt schedule = (.ok (some chunk), r', rest)) :
    ∃ c, r'.connection = some c ∧ c.tracker.Seated ∧ chunk.free ≤ c.tracker.size := by
  have formed' := (formed.sameShape_planChunk planned).wellFormed
  obtain ⟨acts, c, timing, plan, positions, t, -, rfl, connected, worked, connected', place⟩ :=
    planChunk_inv planned
  have seated := ((formed.sameShape_atReading acts).wellFormed.connection c connected).seated
  have size_eq := (seated.refresh false).2
  rw [← refresh_of_plan, worked] at size_eq
  refine ⟨_, connected', (formed'.connection _ connected').seated, ?_⟩
  cases plan with
  | blocked => cases place
  | ready target free skip gap =>
    cases place
    obtain ⟨-, -, rfl⟩ := seated.place_inv worked
    exact Nat.le_of_lt (Nat.lt_of_lt_of_eq (distance_lt seated.pos _ _) size_eq.symm)

/-- A pass that has nothing to feed, or must not do it now, puts nothing. -/
theorem leaves_of_idle (going : r.state ≠ .stopped) {left : Feed}
    (idle : left.data.isEmpty ∨ r.state ≠ .running) {schedule rest : Schedule} {outcome : PassEnd}
    (passed : r.feedPass left schedule = (outcome, r', rest)) :
    r.Counts r' 0 0 ∧ outcome.Leaves left [] 0 0 := by
  rcases feedPass_idle_cases idle schedule with ⟨ended, ends⟩ | ends <;>
    cases ends.symm.trans passed
  · have spent : left.data = [] := by simpa using ended.resolve_right going
    exact ⟨counts_of_eq rfl rfl, by simp [PassEnd.Leaves, spent]⟩
  · exact ⟨counts_of_eq rfl rfl, rfl, rfl⟩

/-- A pass drops and writes what its put says, and counts it. -/
theorem tally_feedPass (formed : r.WellFormed) (going : r.state ≠ .stopped) {left : Feed}
    {schedule rest : Schedule} {outcome : PassEnd}
    (passed : r.feedPass left schedule = (outcome, r', rest)) :
    ∃ skipped written, Tally left.data (r.putOfPass left schedule).toList skipped written
      ∧ r.Counts r' skipped written
      ∧ outcome.Leaves left (r.putOfPass left schedule).toList skipped written
      ∧ (left.writeAt = none → skipped = 0) := by
  unfold putOfPass
  by_cases idle : left.data.isEmpty ∨ r.state ≠ .running
  · rw [if_pos idle]
    obtain ⟨counts, leaves⟩ := leaves_of_idle going idle passed
    exact ⟨0, 0, Tally.nil _, counts, leaves, fun _ => rfl⟩
  rw [if_neg idle]
  rw [feedPass_of_not_idle idle] at passed
  rcases planned : r.planChunk left.writeAt schedule with ⟨_ | _ | chunk, found, rest'⟩
  all_goals rw [planned] at passed
  all_goals have counted := counts_of_planChunk planned
  · cases passed
    exact ⟨0, 0, Tally.nil _, counted, trivial, fun _ => rfl⟩
  · cases passed
    exact ⟨0, 0, Tally.nil _, ⟨counted.1, counted.2⟩, ⟨rfl, rfl⟩, fun _ => rfl⟩
  · obtain ⟨c, connected, seated, room⟩ := formed.room_of_planChunk planned
    have running : found.state = .running := by
      rw [show found.state = r.state from congrArg Standing.state (standing_planChunk planned)]
      simpa using (not_or.1 idle).2
    obtain ⟨skipped, written, tally, counts, leaves, le⟩ :=
      tally_writeChunk connected seated room running left
    cases passed
    refine ⟨skipped, written, tally, ?_, leaves, fun untimed => ?_⟩
    · simpa using counted.trans counts
    · rw [untimed] at planned
      have fresh := skip_of_untimed planned
      omega

/-! ### Turns -/

/-- What the passes of a turn put on the ring. -/
def puts (r : Renderer) (left : Feed) (schedule : Schedule) : List Put :=
  match h : r.feedPass left schedule with
  | (.proceed later, r', rest) =>
    have := feedPass_shrinks h
    (r.putOfPass left schedule).toList ++ r'.puts later rest
  | _ => (r.putOfPass left schedule).toList
termination_by schedule.length

section

variable {left later : Feed} {schedule rest : Schedule}

theorem puts_of_proceed (passed : r.feedPass left schedule = (.proceed later, r', rest)) :
    r.puts left schedule = (r.putOfPass left schedule).toList ++ r'.puts later rest := by
  rw [puts]
  split
  · next passed' =>
    cases passed.symm.trans passed'
    rfl
  · next other => exact absurd passed (other _ _ _)

theorem puts_of_last {outcome : PassEnd} (passed : r.feedPass left schedule = (outcome, r', rest))
    (last : outcome.isProceed = false) :
    r.puts left schedule = (r.putOfPass left schedule).toList := by
  rw [puts]
  split
  · next passed' =>
    cases passed.symm.trans passed'
    cases last
  · rfl

end

end Renderer

/-- What remains to be fed once so much was dropped and written. When its first byte is meant to be
heard is known until the first put. -/
structure Feed.Remains (later left : Feed) (puts : List Put) (skipped written : Nat) : Prop where
  data_eq : later.data = left.data.drop (skipped + written)
  timing : later.writeAt = none ∨ puts = [] ∧ later = left

/-- How a turn ends that has dropped and written so much of what was left. -/
def Progress.Leaves (progress : Progress) (left : Feed) (puts : List Put) (skipped written : Nat) :
    Prop :=
  match progress with
  | .returned (.ok outcome) => outcome = .receipt .rendered ∧ skipped + written = left.data.length
  | .returned (.error _) => True
  | .waiting call => ∃ later, call = .receive later ∧ later.Remains left puts skipped written

section

variable {left later last : Feed} {puts puts' : List Put}
  {skipped skipped' written written' : Nat}

theorem Feed.Remains.trans (remains : later.Remains left puts skipped written)
    (next : last.Remains later puts' skipped' written') :
    last.Remains left (puts ++ puts') (skipped + skipped') (written + written') := by
  refine ⟨?_, ?_⟩
  · rw [next.data_eq, remains.data_eq, List.drop_drop]
    congr 1
    omega
  · rcases next.timing with untimed | ⟨rfl, rfl⟩
    · exact .inl untimed
    · rw [List.append_nil]
      exact remains.timing

/-- A turn goes on with what the turns before it have left. -/
theorem Progress.Leaves.after {progress : Progress}
    (leaves : progress.Leaves later puts' skipped' written')
    (remains : later.Remains left puts skipped written)
    (within : skipped + written ≤ left.data.length) :
    progress.Leaves left (puts ++ puts') (skipped + skipped') (written + written') := by
  match progress with
  | .returned (.ok _) =>
    obtain ⟨rendered, all⟩ := leaves
    rw [remains.data_eq, List.length_drop] at all
    exact ⟨rendered, by omega⟩
  | .returned (.error _) => trivial
  | .waiting _ =>
    obtain ⟨last, rfl, next⟩ := leaves
    exact ⟨last, rfl, remains.trans next⟩

end

namespace Renderer

variable {r r' : Renderer}

/-- A turn drops and writes what its puts say, and counts it. -/
theorem tally_feedTurn (formed : r.WellFormed) (going : r.state ≠ .stopped) (left : Feed)
    (schedule : Schedule) :
    ∃ skipped written, Tally left.data (r.puts left schedule) skipped written
      ∧ r.Counts (r.feedTurn left schedule).2.1 skipped written
      ∧ (r.feedTurn left schedule).1.Leaves left (r.puts left schedule) skipped written
      ∧ (left.writeAt = none → skipped = 0) := by
  fun_induction feedTurn r left schedule with
  | case1 r left schedule r' rest passed =>
    obtain ⟨skipped, written, tally, counts, leaves, untimed⟩ := tally_feedPass formed going passed
    rw [puts_of_last passed rfl]
    exact ⟨skipped, written, tally, counts, ⟨rfl, leaves⟩, untimed⟩
  | case2 r left schedule e r' rest passed =>
    obtain ⟨skipped, written, tally, counts, -, untimed⟩ := tally_feedPass formed going passed
    rw [puts_of_last passed rfl]
    exact ⟨skipped, written, tally, counts, trivial, untimed⟩
  | case3 r left schedule later r' rest passed =>
    obtain ⟨skipped, written, tally, counts, ⟨none_put, rfl⟩, untimed⟩ :=
      tally_feedPass formed going passed
    rw [puts_of_last passed rfl]
    refine ⟨skipped, written, tally, counts, ⟨later, rfl, ?_, .inr ⟨none_put, rfl⟩⟩, untimed⟩
    rw [none_put] at tally
    obtain ⟨rfl, rfl⟩ := tally.eq_zero
    rfl
  | case4 r left schedule later r' rest passed _ ih =>
    obtain ⟨skipped, written, tally, counts, rfl, untimed⟩ := tally_feedPass formed going passed
    have formed' := (formed.sameShape_feedPass left schedule).wellFormed
    have state_eq : (r.feedPass left schedule).2.1.state = r.state :=
      congrArg Standing.state (r.standing_feedPass left schedule)
    rw [passed] at formed' state_eq
    obtain ⟨skipped', written', tally', counts', leaves', untimed'⟩ :=
      ih formed' (state_eq ▸ going)
    rw [puts_of_proceed passed]
    refine ⟨skipped + skipped', written + written', tally.append tally' (.inr (untimed' rfl)),
      counts.trans counts', leaves'.after ⟨rfl, .inl rfl⟩ tally.within, fun unknown => ?_⟩
    rw [untimed unknown, untimed' rfl]

theorem counts_screen (r : Renderer) (s : MediaSample) : r.Counts (r.screen s).2 0 0 := by
  have counted {r' : Renderer} (stats : r'.stats = r.stats) : r.Counts (r'.take s).2 0 0 := by
    rw [take_eq, stats]
    exact counts_of_eq rfl rfl
  rcases screened : r.screen s with ⟨answer, r'⟩
  cases Decided.of_screen screened with
  | declined | stopped | disconnected => exact counts_of_eq rfl rfl
  | kept => exact counted rfl
  | rejected _ _ _ rejected =>
    rw [eq_of_renegotiate rejected]
    exact counts_of_eq rfl rfl
  | agreed _ _ _ _ agreed => exact counted (by rw [eq_of_renegotiate agreed])

/-- A sample that is fed comes to a stream that is not stopped. -/
theorem going_of_screen {s : MediaSample} {left : Feed}
    (admitted : (r.screen s).1 = .ok (.feed left)) :
    (r.screen s).2.state ≠ .stopped := by
  rcases r.stage_screen s with ⟨refused, -⟩ | ⟨-, going, time, stage⟩
  · exact absurd (.inl ⟨left, admitted⟩) refused
  · rwa [show (r.screen s).2.state = r.state from congrArg Prod.fst stage]

/-- A call that is not woken by a flush or a stop feeds on. -/
theorem resume_of_feedWake_none (woken : r.feedWake = none) (left : Feed) (schedule : Schedule) :
    r.state ≠ .stopped
      ∧ r.resume (.receive left) schedule = r.feedTurn left schedule := by
  refine ⟨fun stopped => ?_, by rw [resume, woken]⟩
  rw [feedWake, if_pos (.inr stopped)] at woken
  cases woken

/-- A call that is woken returns and changes nothing, without an error if it is a flush that has
woken it while the stream was paused. -/
theorem resume_of_feedWake_some {answer : Except RenderError Unit}
    (woken : r.feedWake = some answer) (left : Feed) (schedule : Schedule) :
    r.resume (.receive left) schedule
        = (.returned (answer.map fun () => .receipt .rendered), r, schedule)
      ∧ (answer = .ok () → r.state = .paused ∧ r.flushing = true) := by
  refine ⟨?_, ?_⟩
  · rw [resume, woken]
    cases answer <;> rfl
  · rintro rfl
    unfold feedWake at woken
    split at woken
    · next ends =>
      split at woken
      · next paused => exact ⟨paused, ends.resolve_right (paused ▸ nofun)⟩
      · cases woken
    · cases woken

/-- The counters show what was counted. -/
theorem Counts.sub {skipped written : Nat} (counts : r.Counts r' skipped written) :
    r'.stats.skipped - r.stats.skipped = .ofNat skipped
      ∧ r'.stats.written - r.stats.written = .ofNat written := by
  rw [counts.skipped_eq, counts.written_eq, UInt64.add_comm, UInt64.add_sub_cancel,
    UInt64.add_comm, UInt64.add_sub_cancel]
  exact ⟨rfl, rfl⟩

end Renderer

/-! ### Calls -/

/-- A call that hands over a sample, with what it has done so far. -/
structure Handover where
  renderer : Renderer
  progress : Progress
  /-- By how much its turns have raised the counter of dropped bytes. -/
  skipped : UInt64
  /-- By how much its turns have raised the counter of written bytes. -/
  written : UInt64
  puts : List Put

namespace Handover

/-- The first turn of a call that hands over `s` to `r`; `left` is what is to be fed of it. -/
def begin (r : Renderer) (s : MediaSample) (left : Feed) (schedule : Schedule) : Handover where
  renderer := (r.receive s schedule).2.1
  progress := (r.receive s schedule).1
  skipped := (r.receive s schedule).2.1.stats.skipped - r.stats.skipped
  written := (r.receive s schedule).2.1.stats.written - r.stats.written
  puts := (r.screen s).2.puts left schedule

/-- The next turn of a call that has `left` to feed. -/
def resume (h : Handover) (left : Feed) (schedule : Schedule) : Handover where
  renderer := (h.renderer.resume (.receive left) schedule).2.1
  progress := (h.renderer.resume (.receive left) schedule).1
  skipped := h.skipped
    + ((h.renderer.resume (.receive left) schedule).2.1.stats.skipped - h.renderer.stats.skipped)
  written := h.written
    + ((h.renderer.resume (.receive left) schedule).2.1.stats.written - h.renderer.stats.written)
  puts := h.puts ++ if h.renderer.feedWake.isSome then [] else h.renderer.puts left schedule

/-- The calls that hand over `s` and come to feed it, to whatever renderer and with whatever
happening outside in their turns. Between these, anything may happen to the renderer. -/
inductive Run (s : MediaSample) : Handover → Prop
  | begin {r : Renderer} {left : Feed} (reached : r.Reachable)
      (admitted : (r.screen s).1 = .ok (.feed left)) (schedule : Schedule) :
      Run s (begin r s left schedule)
  | meanwhile {h : Handover} {left : Feed} (run : Run s h)
      (waiting : h.progress = .waiting (.receive left)) (op : Operation) :
      Run s { h with renderer := op.apply h.renderer }
  | resume {h : Handover} {left : Feed} (run : Run s h)
      (waiting : h.progress = .waiting (.receive left)) (schedule : Schedule) :
      Run s (h.resume left schedule)

variable {s : MediaSample} {h : Handover}

/-- What the call has done is tallied and counted. It waits with the rest of `whole`, or has
returned, without an error only if nothing is left or a flush has ended its wait in the paused
state. -/
structure Accounts (h : Handover) (whole : Feed) (skipped written : Nat) : Prop where
  reached : h.renderer.Reachable
  tally : Tally whole.data h.puts skipped written
  skipped_eq : h.skipped = .ofNat skipped
  written_eq : h.written = .ofNat written
  leaves : h.progress.Leaves whole h.puts skipped written
    ∨ h.progress = .returned (.ok (.receipt .rendered))
      ∧ h.renderer.state = .paused ∧ h.renderer.flushing = true

theorem accounts_begin {r : Renderer} (reached : r.Reachable) {left : Feed}
    (admitted : (r.screen s).1 = .ok (.feed left)) (schedule : Schedule) :
    ∃ skipped written, (begin r s left schedule).Accounts left skipped written := by
  have fed : r.receive s schedule = (r.screen s).2.feedTurn left schedule := by
    rcases screened : r.screen s with ⟨answer, r'⟩
    rw [screened] at admitted
    obtain rfl : answer = .ok (.feed left) := admitted
    rw [Renderer.receive, screened]
  have formed := (reached.operate (.screen s)).wellFormed
  obtain ⟨skipped, written, tally, counts, leaves, -⟩ :=
    Renderer.tally_feedTurn formed (Renderer.going_of_screen admitted) left schedule
  have counted := ((r.counts_screen s).trans counts).sub
  rw [Nat.zero_add, Nat.zero_add] at counted
  obtain ⟨ops, same, -⟩ := r.exists_applyAll_receive s schedule
  unfold begin
  refine ⟨skipped, written, ?_, tally, ?_, ?_, .inl ?_⟩
  · dsimp only
    rw [same]
    exact reached.applyAll _
  all_goals dsimp only
  all_goals rw [fed]
  · exact counted.1
  · exact counted.2
  · exact leaves

/-- The next turn returns at once, or feeds what remains. -/
theorem Accounts.resume {whole left : Feed} {skipped written : Nat}
    (accounts : h.Accounts whole skipped written)
    (waiting : h.progress = .waiting (.receive left)) (schedule : Schedule) :
    ∃ skipped written, (h.resume left schedule).Accounts whole skipped written := by
  obtain ⟨reached, tally, skipped_eq, written_eq, leaves⟩ := accounts
  have remains : left.Remains whole h.puts skipped written := by
    rw [waiting] at leaves
    rcases leaves with ⟨_, ⟨⟩, remains⟩ | ⟨⟨⟩, -⟩
    exact remains
  obtain ⟨ops, same, -⟩ := h.renderer.exists_applyAll_resume (.receive left) schedule
  have reached' : (h.renderer.resume (.receive left) schedule).2.1.Reachable := by
    rw [same]
    exact reached.applyAll ops
  cases woken : h.renderer.feedWake with
  | none =>
    obtain ⟨going, turn⟩ := Renderer.resume_of_feedWake_none woken left schedule
    obtain ⟨skipped', written', tally', counts, leaves', untimed⟩ :=
      Renderer.tally_feedTurn reached.wellFormed going left schedule
    have fresh : h.puts = [] ∨ skipped' = 0 := remains.timing.elim (.inr ∘ untimed) (.inl ·.1)
    rw [remains.data_eq] at tally'
    unfold Handover.resume
    rw [woken, turn, counts.sub.1, counts.sub.2, skipped_eq, written_eq, ← UInt64.ofNat_add,
      ← UInt64.ofNat_add]
    rw [turn] at reached'
    exact ⟨_, _, reached', tally.append tally' fresh, rfl, rfl,
      .inl (leaves'.after remains tally.within)⟩
  | some answer =>
    obtain ⟨turn, flushed⟩ := Renderer.resume_of_feedWake_some woken left schedule
    unfold Handover.resume
    rw [woken, turn, UInt64.sub_self, UInt64.add_zero, UInt64.sub_self, UInt64.add_zero]
    refine ⟨skipped, written, reached, (List.append_nil _).symm ▸ tally, skipped_eq, written_eq, ?_⟩
    match answer with
    | .ok () => exact .inr ⟨rfl, flushed rfl⟩
    | .error _ => exact .inl trivial

theorem Run.exists_accounts (run : h.Run s) :
    ∃ whole skipped written, whole.data = s.data ∧ h.Accounts whole skipped written := by
  induction run with
  | @begin r left reached admitted schedule =>
    obtain ⟨skipped, written, accounts⟩ := accounts_begin reached admitted schedule
    exact ⟨left, skipped, written, Renderer.data_of_screen admitted, accounts⟩
  | @meanwhile h left run waiting op ih =>
    obtain ⟨whole, skipped, written, data_eq, accounts⟩ := ih
    refine ⟨whole, skipped, written, data_eq, accounts.reached.operate op, accounts.tally,
      accounts.skipped_eq, accounts.written_eq, ?_⟩
    rcases accounts.leaves with leaves | ⟨returned, -⟩
    · exact .inl leaves
    · cases waiting.symm.trans returned
  | @resume h left run waiting schedule ih =>
    obtain ⟨whole, skipped, written, data_eq, accounts⟩ := ih
    obtain ⟨skipped, written, accounts⟩ := accounts.resume waiting schedule
    exact ⟨whole, skipped, written, data_eq, accounts⟩

/-- A call that hands over a sample, to whatever renderer, with whatever happening in its turns and
between them: behind the dropped bytes of the sample, all of them dropped by the first put, those
that were put on the ring follow in order and without a gap, each put while the stream runs; the
counters were raised by as many; and when the call returns the sample as rendered, these are all of
its bytes, unless a flush has ended its wait while the stream was paused. -/
theorem Run.accounts (run : h.Run s) :
    ∃ skipped written : Nat, h.skipped = .ofNat skipped ∧ h.written = .ofNat written
      ∧ skipped + written ≤ s.data.length
      ∧ h.puts.flatMap (·.data) = (s.data.drop skipped).take written
      ∧ ((h.puts.map (·.dropped)).sum = skipped ∧ ∀ p ∈ h.puts.tail, p.dropped = 0)
      ∧ (∀ p ∈ h.puts, p.state = .running ∧ ∃ bytes, p.before = some bytes
        ∧ p.data.length ≤ bytes.length ∧ p.after = some (overlay bytes p.offset p.data))
      ∧ (h.progress = .returned (.ok (.receipt .rendered)) → skipped + written = s.data.length
        ∨ h.renderer.state = .paused ∧ h.renderer.flushing = true) := by
  obtain ⟨whole, skipped, written, data_eq, accounts⟩ := run.exists_accounts
  have tally := accounts.tally
  rw [data_eq] at tally
  refine ⟨skipped, written, accounts.skipped_eq, accounts.written_eq, tally.within,
    tally.committed, ⟨tally.dropped, tally.first⟩, tally.real, fun returned => ?_⟩
  rcases accounts.leaves with leaves | ⟨-, flushed⟩
  · rw [returned] at leaves
    exact .inl (data_eq ▸ leaves.2)
  · exact .inr flushed

/-- A sample comes a byte too late: that byte is dropped, and the other two are written. -/
theorem accounts_of_late_sample :
    ∃ h, Run { data := [1, 2, 3], start := some 30000 } h
      ∧ h.progress = .returned (.ok (.receipt .rendered)) ∧ h.skipped = 1
      ∧ h.puts.flatMap (·.data) = [2, 3] := by
  have run := Run.begin (Renderer.reachable_tenBytes.operate (.setManualClock 10000))
    (s := { data := [1, 2, 3], start := some 30000 }) rfl [[.setCursor 0 3]]
  have turn : (Operation.apply (.setManualClock 10000) Renderer.tenBytes).receive
      { data := [1, 2, 3], start := some 30000 } [[.setCursor 0 3]] = _ :=
    (Renderer.feedTurn_of_proceed rfl).trans (Renderer.feedTurn_of_returned rfl)
  generalize begun : begin _ _ _ _ = h at run
  have rendered : h.progress = .returned (.ok (.receipt .rendered)) := by
    rw [← begun, begin, turn]
  have running : h.renderer.state = .running := by
    rw [← begun, begin, turn]
    rfl
  have counted : h.skipped = 1 := by
    rw [← begun, begin, turn]
    rfl
  obtain ⟨skipped, written, skipped_eq, -, within, committed, -, -, all⟩ := run.accounts
  have total : skipped + written = 3 := (all rendered).resolve_right fun flushed => by
    cases running.symm.trans flushed.1
  have word : 1 = skipped % 2 ^ 64 := congrArg UInt64.toNat (counted.symm.trans skipped_eq)
  obtain rfl : skipped = 1 := by omega
  obtain rfl : written = 2 := by omega
  exact ⟨h, run, rendered, counted, committed⟩

end Handover

end Playout
