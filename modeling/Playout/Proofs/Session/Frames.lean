import Playout.Proofs.Session.Marks
import Playout.Proofs.Tracker.FailedLook

/-!
# Whole frames

A quantity of bytes is whole if it is a multiple of the frame. If the cursors that are read and what
is handed over are whole, everything that a pass makes of them is: the positions that are kept, the
place that is planned, and what is dropped, written and silenced. Times are converted to whole
frames (`WaveFormat.blockAlign_dvd_wholeFrames`), and the rest are sums, remainders by the size of
the ring, and minima.

A pass fails of its lock only if the lock was made to fail, and of the arithmetic only where a word
is too short for a sum, a difference or a negative (`RenderError.Blames`).
-/

namespace Playout

/-! ### Quantities -/

variable {n size : Nat}

theorem dvd_distance {source target : Nat} (whole_size : n ∣ size) (whole_source : n ∣ source)
    (whole_target : n ∣ target) : n ∣ distance source target size :=
  (Nat.dvd_mod_iff whole_size).2
    (Nat.dvd_sub (Nat.dvd_add whole_target whole_size) whole_source)

/-- On a ring of whole frames, data that begins with a frame keeps its bytes in their places in the
frame. -/
theorem place_in_frame {offset : Nat} (whole_size : n ∣ size) (whole : n ∣ offset) (k : Nat) :
    (offset + k) % size % n = k % n := by
  rw [Nat.mod_mod_of_dvd _ whole_size, Nat.add_mod, Nat.mod_eq_zero_of_dvd whole, Nat.zero_add,
    Nat.mod_mod]

theorem dvd_min {a b : Nat} (whole : n ∣ a) (whole' : n ∣ b) : n ∣ min a b := by
  rw [Nat.min_def]
  split <;> assumption

theorem dvd_length_take {α : Type} {data : List α} (whole : n ∣ data.length) {m : Nat}
    (whole_m : n ∣ m) : n ∣ (data.take m).length := by
  rw [List.length_take]
  exact dvd_min whole_m whole

theorem dvd_length_drop {α : Type} {data : List α} (whole : n ∣ data.length) {m : Nat}
    (whole_m : n ∣ m) : n ∣ (data.drop m).length := by
  rw [List.length_drop]
  exact Nat.dvd_sub whole whole_m

theorem WaveFormat.dvd_bytesOfTicks (f : WaveFormat) (pos : 0 < f.blockAlign) (ticks : Ticks) :
    f.blockAlign ∣ f.bytesOfTicks ticks :=
  f.blockAlign_dvd_wholeFrames _ pos

/-! ### Positions -/

/-- Both cursors stand at the beginning of a frame. -/
structure Cursor.InFrames (n : Nat) (cursor : Cursor) : Prop where
  play : n ∣ cursor.play
  write : n ∣ cursor.write

/-- The ring holds whole frames, and every position that is kept on it is at the beginning of
one. -/
structure Marks.InFrames (n : Nat) (m : Marks) : Prop where
  size : n ∣ m.size
  lastPlay : n ∣ m.lastPlay
  writePos : ∀ write ∈ m.writePos, n ∣ write

/-- A plan to write names a place on a ring of `size`, and everything in it is in frames of `n`. -/
def WritePlan.InFrames (n size : Nat) : WritePlan → Prop
  | ready target free skip gap => target < size ∧ n ∣ target ∧ n ∣ free ∧ n ∣ skip ∧ n ∣ gap
  | blocked _ => True

/-- What remains of the write position, and where the next sequential byte goes. -/
theorem PositionTracker.dvd_resync (draining : Bool) {lastPlay minimum : Nat}
    {writePos : Option Nat} (whole_minimum : n ∣ minimum)
    (whole_write : ∀ write ∈ writePos, n ∣ write) :
    n ∣ (resync draining lastPlay writePos minimum size).1
      ∧ ∀ write ∈ (resync draining lastPlay writePos minimum size).2.2, n ∣ write := by
  rcases resync_writePos_eq draining lastPlay writePos minimum size with unset | same
  · rcases resync_writePos draining lastPlay writePos minimum size with ⟨-, hardware⟩ | kept
    · rw [unset, hardware]
      exact ⟨whole_minimum, nofun⟩
    · cases unset.symm.trans kept
  · rw [same]
    refine ⟨?_, whole_write⟩
    rcases resync_writePos draining lastPlay writePos minimum size with ⟨-, hardware⟩ | kept
    · rwa [hardware]
    · exact whole_write _ (same.symm.trans kept)

theorem Marks.InFrames.look {m : Marks} (frames : m.InFrames n) (draining : Bool) {cursor : Cursor}
    (read : cursor.InFrames n) : (m.look draining cursor).InFrames n where
  size := frames.size
  lastPlay := read.play
  writePos := (PositionTracker.dvd_resync draining read.write frames.writePos).2

/-! ### Plans -/

namespace WritePlanner

variable {p : WritePlanner} {f : WaveFormat} {play : Nat} {positions : Positions}
  {timing : Option Timing}

/-- From whole positions a plan leads to whole quantities, whatever the times. -/
theorem place_inFrames (pos : 0 < f.blockAlign) (whole_size : f.blockAlign ∣ size)
    (whole_play : f.blockAlign ∣ play) (whole_sequential : f.blockAlign ∣ positions.sequential)
    (whole_minimum : f.blockAlign ∣ positions.minimum) (sequential_lt : positions.sequential < size)
    (minimum_lt : positions.minimum < size) {plan : WritePlan}
    (planned : p.place f play size positions timing = .ok plan) :
    plan.InFrames f.blockAlign size := by
  cases plan with
  | blocked => trivial
  | ready target free skip gap =>
    obtain ⟨rfl, -, placed⟩ := placement_of_place planned
    have whole_ticks := f.dvd_bytesOfTicks pos
    have zero := Nat.dvd_zero f.blockAlign
    suffices target < size ∧ f.blockAlign ∣ target ∧ f.blockAlign ∣ skip ∧ f.blockAlign ∣ gap from
      ⟨this.1, this.2.1, dvd_distance whole_size this.2.1 whole_play, this.2.2⟩
    obtain ⟨rfl, rfl, rfl⟩ | ⟨meant, -, placed⟩ := placed
    · exact ⟨sequential_lt, whole_sequential, zero, zero⟩
    cases placed with
    | inTime => exact ⟨sequential_lt, whole_sequential, zero, zero⟩
    | stale => exact ⟨minimum_lt, whole_minimum, whole_ticks _, zero⟩
    | onto | early =>
      refine ⟨Nat.mod_lt _ (Nat.zero_lt_of_lt minimum_lt), ?_, zero, whole_ticks _⟩
      exact (Nat.dvd_mod_iff whole_size).2 (Nat.dvd_add whole_minimum (whole_ticks _))

end WritePlanner

/-! ### Trackers -/

namespace PositionTracker

variable {t t' : PositionTracker}

/-- A look leaves whole positions, also if the ring cannot be silenced. -/
theorem Seated.refresh_inFrames (seated : t.Seated) (frames : t.marks.InFrames n)
    (read : ∀ cursor ∈ t.answer, cursor.InFrames n) (draining : Bool) :
    (t.refresh draining).2.marks.InFrames n := by
  by_cases armed : t.ring.buffer.armed.cursor = true
  · rw [refresh_of_armed draining armed]
    exact frames
  have read := read t.ring.buffer.position (by simp [answer, armed])
  have looked := frames.look draining read
  have size_eq := t.ring.size_fillSilence t.lastPlay
    (distance t.lastPlay t.ring.buffer.position.play t.size)
  rw [refresh_of_answering draining seated.pos (by simpa using armed)]
  split
  · next ring refused =>
    rw [refused] at size_eq
    have whole_size : n ∣ ring.size := size_eq.symm ▸ frames.size
    exact ⟨whole_size, read.play, frames.writePos⟩
  · next ring filled =>
    rw [filled] at size_eq
    have whole_size : n ∣ ring.size := size_eq.symm ▸ frames.size
    exact ⟨whole_size, looked.lastPlay, looked.writePos⟩

/-- A plan is in whole frames, and what it goes by lies on the ring. -/
theorem Seated.plan_inFrames (seated : t.Seated) {p : WritePlanner} {f : WaveFormat}
    {timing : Option Timing} {plan : WritePlan} {positions : Positions} (pos : 0 < f.blockAlign)
    (frames : t.marks.InFrames f.blockAlign)
    (read : ∀ cursor ∈ t.answer, cursor.InFrames f.blockAlign)
    (planned : p.plan t f timing = (.ok (plan, positions), t')) :
    positions.sequential < t.size ∧ positions.minimum < t.size
      ∧ plan.InFrames f.blockAlign t.size := by
  have answered := Renderer.answer_of_plan (congrArg Prod.fst planned)
  have read := read t.ring.buffer.position (by
    unfold answer at answered ⊢
    split at answered
    · cases answered
    · next answering => simp [answering])
  obtain ⟨found, placed⟩ := seated.plan_inv planned
  obtain ⟨spans, last_lt, write_lt⟩ := seated
  obtain ⟨play_lt, minimum_lt⟩ := spans.position
  have sequential_lt : positions.sequential < t.size := by
    rw [found]
    exact resync_lt false minimum_lt write_lt
  have below : positions.minimum < t.size := by
    rw [found]
    exact minimum_lt
  refine ⟨sequential_lt, below, WritePlanner.place_inFrames pos frames.size read.play ?_ ?_
    sequential_lt below placed⟩
  · rw [found]
    exact (dvd_resync false read.write frames.writePos).1
  · rw [found]
    exact read.write

theorem Seated.commit_inFrames (seated : t.Seated) (frames : t.marks.InFrames n) {offset : Nat}
    {data : List UInt8} (whole : n ∣ offset) (whole_data : n ∣ data.length) :
    (t.commit offset data).2.marks.InFrames n := by
  have size_eq := t.ring.size_write offset data
  unfold PositionTracker.commit
  split
  · next ring refused =>
    rw [refused] at size_eq
    have whole_size : n ∣ ring.size := size_eq.symm ▸ frames.size
    exact ⟨whole_size, frames.lastPlay, frames.writePos⟩
  next region ring written =>
  obtain rfl := RingBuffer.region_of_write written
  rw [written] at size_eq
  have whole_size : n ∣ ring.size := size_eq.symm ▸ frames.size
  split
  · exact ⟨whole_size, frames.lastPlay, frames.writePos⟩
  · refine ⟨whole_size, frames.lastPlay, ?_⟩
    rintro _ ⟨⟩
    have stop := stop_split (show 0 < t.ring.size from seated.pos) offset data.length
    have whole_ring : n ∣ t.ring.size := frames.size
    rw [PositionTracker.size, stop, Nat.dvd_mod_iff whole_ring]
    exact Nat.dvd_add whole (dvd_min whole_data whole_ring)

/-! ### Locks -/

end PositionTracker

/-- An error of the arithmetic only where a word is too short, and of the lock only if that was made
to fail. -/
structure RenderError.Blames (refusing : Prop) (e : RenderError) : Prop where
  overflow : ∀ fault, e = .fault fault → fault.isOverflow = true
  lock : ∀ start count, e = .hardware (.lockFailed start count) → refusing

theorem RenderError.Blames.mono {refusing refusing' : Prop} {e : RenderError}
    (blames : e.Blames refusing) (implies : refusing → refusing') : e.Blames refusing' :=
  ⟨blames.overflow, fun start count same => implies (blames.lock start count same)⟩

theorem RenderError.blames_wrongState {refusing : Prop} : RenderError.wrongState.Blames refusing :=
  ⟨nofun, nofun⟩

theorem RenderError.blames_overflow {refusing : Prop} {fault : Fault}
    (overflow : fault.isOverflow = true) : (RenderError.fault fault).Blames refusing :=
  ⟨fun _ same => RenderError.fault.inj same ▸ overflow, nofun⟩

namespace PositionTracker

variable {t t' : PositionTracker}

/-- A ring whose lock was not made to fail is sound. -/
theorem Seated.sound (seated : t.Seated) (granting : ¬t.ring.buffer.armed.lock = true) :
    t.view.Sound :=
  ⟨seated.pos, seated.spans.size_eq, Bool.eq_false_iff.2 granting⟩

/-- A look fails if the cursors cannot be read or if its lock was made to fail. -/
theorem Seated.refresh_blame (seated : t.Seated) {draining : Bool} {failure : Failure}
    (failed : t.refresh draining = (.error failure, t')) :
    (RenderError.ofFailure failure).Blames (t.ring.buffer.armed.lock = true) := by
  rcases seated.refresh_failed failed with ⟨rfl, -⟩ | ⟨⟨start, count, rfl⟩, -⟩
  · exact ⟨nofun, nofun⟩
  refine ⟨nofun, fun _ _ _ => Decidable.by_contra fun granting => ?_⟩
  cases answered : t.answer with
  | some cursor =>
    rw [refresh_of_answer draining (seated.sound granting) answered] at failed
    cases failed
  | none =>
    have armed : t.ring.buffer.armed.cursor = true := by
      unfold answer at answered
      split at answered
      · assumption
      · cases answered
    rw [refresh_of_armed draining armed] at failed
    cases failed

theorem Seated.plan_blame (seated : t.Seated) {p : WritePlanner} {f : WaveFormat}
    {timing : Option Timing} {failure : Failure} (rate : f.byteRate ≠ 0)
    (failed : p.plan t f timing = (.error failure, t')) :
    (RenderError.ofFailure failure).Blames (t.ring.buffer.armed.lock = true) := by
  rcases WritePlanner.plan_eq_error failed with
    looked | ⟨still, -⟩ | ⟨positions, fault, -, rfl, overflow⟩
  · exact seated.refresh_blame looked
  · exact absurd still rate
  · exact RenderError.blames_overflow (WritePlanner.onlyOverflows_place _ _ overflow)

theorem Seated.commit_blame (seated : t.Seated) {offset : Nat} {data : List UInt8}
    {e : TransportError} (failed : t.commit offset data = (.error e, t')) :
    t.ring.buffer.armed.lock = true := by
  refine Decidable.by_contra fun granting => ?_
  rw [commit_eq (seated.sound granting)] at failed
  cases failed

theorem Seated.clear_blame (seated : t.Seated) {e : TransportError}
    (failed : t.clear.1 = .error e) : t.ring.buffer.armed.lock = true := by
  refine Decidable.by_contra fun granting => ?_
  rw [clear_eq (seated.sound granting)] at failed
  cases failed

/-- A look makes no lock fail. -/
theorem Seated.lock_of_refresh (seated : t.Seated) {draining : Bool}
    (refusing : (t.refresh draining).2.ring.buffer.armed.lock = true) :
    t.ring.buffer.armed.lock = true := by
  refine Decidable.by_contra fun granting => ?_
  have view := congrArg RingView.refusing (view_refresh (seated.sound granting) draining)
  have kept : (t.view.read t.answer).refusing = false := ((seated.sound granting).read _).granting
  rw [kept] at view
  exact absurd refusing (by simpa [PositionTracker.view] using view)

end PositionTracker

/-- A connection keeps its frame while it goes on. -/
theorem Connection.Persists.blockAlign_eq {c c' : Connection} (lasts : c.Persists c') :
    c'.format.blockAlign = c.format.blockAlign := by
  have same := lasts.renegotiable
  simp only [WaveFormat.renegotiableTo, Bool.and_eq_true, beq_iff_eq] at same
  exact same.1.1.2.symm

/-! ### Renderers -/

/-- The lock of the connected buffer was made to fail. -/
def Renderer.Refusing (r : Renderer) : Prop :=
  ∃ c ∈ r.connection, c.tracker.ring.buffer.armed.lock = true

/-- The lock was made to fail by the time that an operation asks for the ring. A pass gives the
outside its turn before. -/
def Operation.Refused (op : Operation) (r : Renderer) : Prop :=
  match op with
  | feed _ schedule | drain schedule => ∃ acts ∈ schedule.head?, (r.atReading acts).Refusing
  | _ => r.Refusing

/-- A place on the ring that is in whole frames. -/
structure Chunk.InFrames (n : Nat) (chunk : Chunk) : Prop where
  target : n ∣ chunk.target
  free : n ∣ chunk.free
  skip : n ∣ chunk.skip

/-- What is left to feed after a pass, if the call has not returned. -/
def PassEnd.left? : PassEnd → Option Feed
  | returned _ => none
  | proceed left | wait left => some left

/-- What is left is what was left, but for whole frames from its beginning. -/
def Feed.After (n : Nat) (left later : Feed) : Prop := ∃ k, n ∣ k ∧ later.data = left.data.drop k

theorem Feed.after_refl (n : Nat) (left : Feed) : left.After n left := ⟨0, Nat.dvd_zero n, rfl⟩

theorem Feed.After.whole {left later : Feed} (after : left.After n later)
    (whole : n ∣ left.data.length) : n ∣ later.data.length := by
  obtain ⟨k, whole_k, same⟩ := after
  rw [same]
  exact dvd_length_drop whole whole_k

namespace Renderer

variable {r r' : Renderer} {c : Connection}

/-- A well-formed renderer whose connection, if there is one, is in whole frames. -/
structure InFrames (r : Renderer) : Prop where
  formed : r.WellFormed
  marks : ∀ c ∈ r.connection, c.tracker.marks.InFrames c.format.blockAlign

theorem InFrames.persists (frames : r.InFrames) (lasts : r.Persists r') : r'.InFrames := by
  refine ⟨frames.formed.persists lasts, fun c' connected' => ?_⟩
  obtain ⟨c, connected, lasts⟩ := lasts.connection c' connected'
  obtain ⟨size, lastPlay, writePos⟩ := frames.marks c connected
  have whole_size : c.format.blockAlign ∣ c'.tracker.size := lasts.size_eq.symm ▸ size
  have whole_play : c.format.blockAlign ∣ c'.tracker.lastPlay := lasts.lastPlay_eq.symm ▸ lastPlay
  rw [lasts.blockAlign_eq]
  refine ⟨whole_size, whole_play, ?_⟩
  intro write there
  rcases lasts.writePos with unset | kept
  · cases unset.symm.trans there
  · exact writePos write (kept.symm.trans there)

theorem InFrames.of_connection (frames : r.InFrames) (config : r'.config = r.config)
    (memory : r'.device.memory = r.device.memory) (connection : r'.connection = r.connection) :
    r'.InFrames :=
  frames.persists (persists_of_eq config memory connection)

theorem InFrames.setTracker (frames : r.InFrames) (connected : r.connection = some c)
    {t : PositionTracker} (seated : t.Seated ∧ t.size = c.tracker.size)
    (marks : t.marks.InFrames c.format.blockAlign) : (r.setTracker t).InFrames := by
  refine ⟨(frames.formed.sameShape_setTracker connected seated).wellFormed, ?_⟩
  intro c' connected'
  rw [Renderer.setTracker, connected] at connected'
  obtain rfl := Option.some.inj connected'
  exact marks

/-- A cursor is in the frames of the connection, if there is one. -/
def Reads (r : Renderer) (cursor : Cursor) : Prop :=
  ∀ c ∈ r.connection, cursor.InFrames c.format.blockAlign

/-- At the reading of the cursors the frames are those from before. -/
theorem reads_atReading {acts : List Disturbance} {rest : Schedule}
    (read : ∀ cursor ∈ r.answer (acts :: rest), r.Reads cursor) {c₀ : Connection}
    (connected : (r.atReading acts).connection = some c₀) :
    ∀ cursor ∈ c₀.tracker.answer, cursor.InFrames c₀.format.blockAlign := by
  intro cursor answered
  obtain ⟨c, connected', lasts⟩ := (r.persists_atReading acts).connection c₀ connected
  rw [lasts.blockAlign_eq]
  refine read cursor ?_ c connected'
  rw [Renderer.answer, tracker_of_connection connected]
  exact answered

theorem InFrames.look (frames : r.InFrames) {schedule rest : Schedule}
    {work : Connection → Except Failure α × PositionTracker} {answer : Except RenderError α}
    (read : ∀ cursor ∈ r.answer schedule, r.Reads cursor)
    (works : ∀ c, ∃ draining, (work c).2 = (c.tracker.refresh draining).2)
    (looked : r.look schedule work = (answer, r', rest)) : r'.InFrames := by
  cases Looked.of_look looked with
  | unscheduled => exact frames
  | disconnected acts => exact frames.persists (r.persists_atReading acts)
  | failed acts c connected | found acts c connected =>
    have disturbed := frames.persists (r.persists_atReading acts)
    obtain ⟨draining, refreshed⟩ := works c
    have seated := (disturbed.formed.connection c connected).seated
    rw [refreshed]
    exact disturbed.setTracker connected (seated.refresh draining)
      (seated.refresh_inFrames (disturbed.marks c connected) (reads_atReading read connected)
        draining)

/-- Planning leaves whole positions, and a place that it finds is in whole frames. -/
theorem InFrames.planChunk (frames : r.InFrames) {writeAt : Option Ticks}
    {schedule rest : Schedule} {chunk : Except RenderError (Option Chunk)}
    (read : ∀ cursor ∈ r.planAnswer writeAt schedule, r.Reads cursor)
    (planned : r.planChunk writeAt schedule = (chunk, r', rest)) :
    r'.InFrames ∧ ∀ place, chunk = .ok (some place) →
      ∀ c ∈ r'.connection, place.InFrames c.format.blockAlign := by
  constructor
  · cases Planned.of_planChunk planned with
    | overflow | disconnected => exact frames
    | failed timed looked =>
      rw [planAnswer_of_timing timed] at read
      exact frames.look read (fun _ => ⟨false, refresh_of_plan ..⟩) looked
    | found timed looked =>
      rw [planAnswer_of_timing timed] at read
      have found := frames.look read (fun _ => ⟨false, refresh_of_plan ..⟩) looked
      exact found.of_connection rfl rfl rfl
  · rintro place rfl c' connected'
    obtain ⟨acts, c, timing, plan, positions, t, timed, rfl, connected, worked, same, asked⟩ :=
      planChunk_inv planned
    rw [planAnswer_of_timing timed] at read
    obtain rfl := Option.some.inj (same.symm.trans connected')
    have disturbed := frames.persists (r.persists_atReading acts)
    obtain ⟨valid, seated, -⟩ := disturbed.formed.connection c connected
    obtain ⟨-, -, whole⟩ := seated.plan_inFrames (WaveFormat.blockAlign_pos_of_validate valid)
      (disturbed.marks c connected) (reads_atReading read connected) worked
    cases plan with
    | blocked => cases asked
    | ready target free skip gap =>
      cases asked
      obtain ⟨-, target, free, skip, -⟩ := whole
      exact ⟨target, free, skip⟩

/-- At a place in whole frames, whole frames are dropped and written. -/
theorem InFrames.writeChunk (frames : r.InFrames) (connected : r.connection = some c)
    {place : Chunk} (whole_place : place.InFrames c.format.blockAlign) {data : List UInt8}
    (whole : c.format.blockAlign ∣ data.length) :
    (r.writeChunk data place).2.InFrames
      ∧ ∀ later ∈ (r.writeChunk data place).1.left?, ∃ k, c.format.blockAlign ∣ k
        ∧ later.data = data.drop k := by
  obtain ⟨target, free, skip⟩ := whole_place
  have seated := (frames.formed.connection c connected).seated
  have marks := frames.marks c connected
  have whole_part := dvd_length_take (dvd_length_drop whole skip) free
  have committed := seated.commit place.target ((data.drop place.skip).take place.free)
  have marks' := seated.commit_inFrames marks target whole_part
  rcases written : r.writeChunk data place with ⟨outcome, r'⟩
  cases Written.of_writeChunk written with
  | stale | disconnected => exact ⟨frames.of_connection rfl rfl rfl, nofun⟩
  | refused c' fresh connected' refused =>
    obtain rfl := Option.some.inj (connected.symm.trans connected')
    rw [refused] at committed marks'
    exact ⟨(frames.setTracker connected committed marks').of_connection rfl rfl rfl, nofun⟩
  | @granted region t c' fresh connected' granted =>
    obtain rfl := Option.some.inj (connected.symm.trans connected')
    have covered := PositionTracker.length_of_commit granted
    rw [granted] at committed marks'
    refine ⟨(frames.setTracker connected committed marks').of_connection rfl rfl rfl, ?_⟩
    rintro _ ⟨⟩
    refine ⟨place.skip + region.length, Nat.dvd_add skip ?_, List.drop_drop⟩
    rw [covered]
    exact dvd_min whole_part marks.size

/-- A pass over whole frames, with whole readings, leaves whole positions and whole frames. -/
theorem InFrames.feedPass (frames : r.InFrames) {left : Feed} {schedule : Schedule}
    (read : ∀ cursor ∈ (Operation.feed left schedule).reading r, r.Reads cursor)
    (whole : ∀ c ∈ r.connection, c.format.blockAlign ∣ left.data.length) :
    (r.feedPass left schedule).2.1.InFrames
      ∧ ∀ later ∈ (r.feedPass left schedule).1.left?, later = left
        ∨ ∃ c, r.connection = some c ∧ left.After c.format.blockAlign later := by
  by_cases idle : left.data.isEmpty ∨ r.state ≠ .running
  · obtain ⟨stats, counted⟩ := feedPass_of_idle idle schedule
    refine ⟨counted ▸ frames.of_connection rfl rfl rfl, fun later there => .inl ?_⟩
    rcases feedPass_idle_cases idle schedule with ⟨-, passed⟩ | passed <;> rw [passed] at there
    · cases there
    · exact (Option.some.inj there).symm
  rw [Operation.reading_feed idle] at read
  rw [feedPass_of_not_idle idle]
  rcases planned : r.planChunk left.writeAt schedule with ⟨_ | _ | place, r', rest⟩ <;>
    obtain ⟨frames', places⟩ := frames.planChunk read planned
  · exact ⟨frames', nofun⟩
  · refine ⟨frames'.of_connection rfl rfl rfl, fun later there => .inl ?_⟩
    exact (Option.some.inj there).symm
  · obtain ⟨acts, c₀, timing, plan, positions, t, -, rfl, connected₀, -, connected', -⟩ :=
      planChunk_inv planned
    obtain ⟨c, connected, lasts⟩ := (r.persists_atReading acts).connection c₀ connected₀
    have whole := whole c connected
    rw [← lasts.blockAlign_eq] at whole
    obtain ⟨written, laters⟩ :=
      frames'.writeChunk connected' (places place rfl _ connected') whole
    refine ⟨written, fun later there => .inr ⟨c, connected, ?_⟩⟩
    rw [← lasts.blockAlign_eq]
    exact laters later there

/-- A look at a ring that drains leaves whole positions, if its reading is whole. -/
theorem InFrames.drainPass (frames : r.InFrames) {schedule : Schedule}
    (read : ∀ cursor ∈ (Operation.drain schedule).reading r, r.Reads cursor) :
    (r.drainPass schedule).2.1.InFrames := by
  rcases passed : r.drainPass schedule with ⟨outcome, r', rest⟩
  cases Drained.of_drainPass passed with
  | interrupted => exact frames
  | failed busy looked =>
    rw [Operation.reading_drain busy] at read
    exact frames.look read (fun _ => ⟨true, rfl⟩) looked
  | found busy looked =>
    rw [Operation.reading_drain busy] at read
    have found := frames.look read (fun _ => ⟨true, rfl⟩) looked
    exact found.of_connection rfl rfl rfl

/-- A new connection has a ring of whole frames. -/
theorem InFrames.connect (frames : r.InFrames) (format : WaveFormat) :
    (r.connect format).2.InFrames := by
  refine ⟨frames.formed.connect format, ?_⟩
  rcases h : r.connect format with ⟨answer, r'⟩
  rcases connect_inv h with ⟨rfl, -⟩ | ⟨⟨valid, -, -⟩, buffer, device, created, rfl⟩
  · exact frames.marks
  · rintro _ ⟨⟩
    refine ⟨?_, Nat.dvd_zero _, nofun⟩
    exact format.dvd_bytesOfTicks (WaveFormat.blockAlign_pos_of_validate valid) _

/-- No operation leads out of whole frames, if what it reads and feeds is whole. -/
theorem InFrames.apply (frames : r.InFrames) {op : Operation}
    (read : ∀ cursor ∈ op.reading r, r.Reads cursor)
    (whole : ∀ left schedule, op = .feed left schedule →
      ∀ c ∈ r.connection, c.format.blockAlign ∣ left.data.length) : (op.apply r).InFrames := by
  by_cases between : op.isBetweenPasses = true
  · exact frames.persists (op.persists_apply between r)
  cases op with
  | connect format => exact frames.connect format
  | feed left schedule => exact (frames.feedPass read (whole left schedule rfl)).1
  | drain schedule => exact frames.drainPass read
  | _ => exact absurd rfl between

/-- The frame and the ring of a connection stay for as long as it does. -/
theorem WellFormed.geometry_apply (formed : r.WellFormed) (connected : r.connection = some c)
    (op : Operation) :
    ∀ c' ∈ (op.apply r).connection, c'.format.blockAlign = c.format.blockAlign
      ∧ c'.tracker.size = c.tracker.size := by
  intro c' connected'
  have passed (same : (op.apply r).dimensions = r.dimensions) :
      c'.format.blockAlign = c.format.blockAlign ∧ c'.tracker.size = c.tracker.size := by
    have measures := congrArg Prod.snd same
    unfold dimensions at measures
    rw [connected', connected] at measures
    obtain ⟨format, size⟩ := Prod.mk.inj (Option.some.inj measures)
    exact ⟨congrArg WaveFormat.blockAlign format, size⟩
  by_cases between : op.isBetweenPasses = true
  · obtain ⟨c₀, connected₀, lasts⟩ := (op.persists_apply between r).connection c' connected'
    obtain rfl := Option.some.inj (connected.symm.trans connected₀)
    exact ⟨lasts.blockAlign_eq, lasts.size_eq⟩
  cases op with
  | connect format =>
    rw [Operation.apply_connect_of_connected connected] at connected'
    obtain rfl := Option.some.inj (connected.symm.trans connected')
    exact ⟨rfl, rfl⟩
  | feed left schedule => exact passed (formed.sameShape_feedPass left schedule).dimensions_eq
  | drain schedule => exact passed (formed.sameShape_drainPass schedule).dimensions_eq
  | _ => exact absurd rfl between

/-- The cursors that an operation reads lie on the ring. -/
theorem WellFormed.reading_lt (formed : r.WellFormed) (connected : r.connection = some c)
    {op : Operation} {cursor : Cursor} (read : op.reading r = some cursor) :
    cursor.play < c.tracker.size ∧ cursor.write < c.tracker.size := by
  obtain ⟨schedule, answered⟩ : ∃ schedule, r.answer schedule = some cursor := by
    cases op with
    | feed left schedule =>
      unfold Operation.reading at read
      dsimp only at read
      split at read
      · cases read
      · exact ⟨schedule, answer_of_planAnswer read⟩
    | drain schedule =>
      unfold Operation.reading at read
      dsimp only at read
      split at read
      · cases read
      · exact ⟨schedule, read⟩
    | _ => cases read
  match schedule with
  | [] => cases answered
  | acts :: rest =>
    obtain ⟨b, connected'⟩ := connection_atReading connected acts
    have disturbed := formed.persists (r.persists_atReading acts)
    have spans := (disturbed.connection _ connected').seated.spans
    rw [Renderer.answer, tracker_of_connection connected', Option.bind_some,
      PositionTracker.answer] at answered
    split at answered
    · cases answered
    · cases answered
      exact spans.position

/-- Only connecting brings in a connection, and it is one for the format asked for. -/
theorem WellFormed.eq_connect (formed : r.WellFormed) (disconnected : r.connection = none)
    {op : Operation} (connected : (op.apply r).connection = some c) : op = .connect c.format := by
  have passed (same : (op.apply r).dimensions = r.dimensions) : op = .connect c.format := by
    have measures := congrArg Prod.snd same
    unfold dimensions at measures
    rw [connected, disconnected] at measures
    cases measures
  by_cases between : op.isBetweenPasses = true
  · obtain ⟨c₀, connected₀, -⟩ := (op.persists_apply between r).connection c connected
    cases disconnected.symm.trans connected₀
  cases op with
  | connect format =>
    rcases h : r.connect format with ⟨answer, r'⟩
    rw [Operation.apply, h] at connected
    rcases connect_inv h with ⟨rfl, -⟩ | ⟨-, buffer, device, -, rfl⟩
    · cases disconnected.symm.trans connected
    · cases connected
      rfl
  | feed left schedule => exact passed (formed.sameShape_feedPass left schedule).dimensions_eq
  | drain schedule => exact passed (formed.sameShape_drainPass schedule).dimensions_eq
  | _ => exact absurd rfl between

/-- What a pass commits is whole frames of what was left, from the beginning of one, and lies on the
ring. -/
theorem InFrames.commitment (frames : r.InFrames) (connected : r.connection = some c) {left : Feed}
    {schedule : Schedule}
    (read : ∀ cursor ∈ (Operation.feed left schedule).reading r, r.Reads cursor)
    (whole : c.format.blockAlign ∣ left.data.length) {offset : Nat} {data : List UInt8}
    (commits : (Operation.feed left schedule).commitment r = some (offset, data)) :
    c.format.blockAlign ∣ offset ∧ c.format.blockAlign ∣ data.length
      ∧ ∃ k, c.format.blockAlign ∣ k ∧ data <+: left.data.drop k := by
  obtain ⟨busy, place, r', rest, planned, placed⟩ := Operation.commitment_feed_inv commits
  rw [Operation.reading_feed busy] at read
  obtain ⟨acts, c₀, timing, plan, positions, t, -, rfl, connected₀, -, connected', -⟩ :=
    planChunk_inv planned
  obtain ⟨c', connected'', lasts⟩ := (r.persists_atReading acts).connection c₀ connected₀
  obtain rfl := Option.some.inj (connected.symm.trans connected'')
  obtain ⟨target, free, skip⟩ := (frames.planChunk read planned).2 place rfl _ connected'
  rw [lasts.blockAlign_eq] at target free skip
  cases placed_inv placed
  exact ⟨target, dvd_length_take (dvd_length_drop whole skip) free, place.skip, skip,
    List.take_prefix ..⟩

/-! ### What fails -/

/-- Where the ring has been looked at, its lock was made to fail by then. -/
theorem blames_look {schedule rest : Schedule}
    {work : Connection → Except Failure α × PositionTracker} {e : RenderError}
    (formed : r.WellFormed)
    (works : ∀ c : Connection, c.format.validate = .ok () → c.tracker.Seated →
      ∀ failure, (work c).1 = .error failure →
        (RenderError.ofFailure failure).Blames (c.tracker.ring.buffer.armed.lock = true))
    (looked : r.look schedule work = (.error e, r', rest)) :
    e.Blames (∃ acts ∈ schedule.head?, (r.atReading acts).Refusing) := by
  generalize answered : (Except.error e : Except RenderError α) = answer at looked
  cases Looked.of_look looked with
  | unscheduled | disconnected =>
    cases answered
    exact ⟨nofun, nofun⟩
  | @failed rest failure acts c connected worked =>
    cases answered
    have disturbed := formed.persists (r.persists_atReading acts)
    obtain ⟨valid, seated, -⟩ := disturbed.connection c connected
    exact (works c valid seated failure worked).mono fun armed => ⟨acts, rfl, c, connected, armed⟩
  | found => cases answered

/-- The present is a difference, and nothing else can go wrong with it. -/
theorem onlyOverflows_timing (r : Renderer) (writeAt : Option Ticks) :
    WritePlanner.OnlyOverflows (r.timing writeAt) := by
  refine WritePlanner.onlyOverflows_bind ?_ fun now => ?_
  · intro fault failed
    unfold streamTime at failed
    split at failed
    · cases failed
    · next now _ =>
      rcases checked : Ticks.difference? now r.streamStart with fault' | _ <;>
        rw [checked] at failed <;> cases failed
      exact WritePlanner.onlyOverflows_checked rfl _ _ checked
  · cases now <;> cases writeAt <;> exact WritePlanner.onlyOverflows_ok _

theorem WellFormed.blames_planChunk (formed : r.WellFormed) {writeAt : Option Ticks}
    {schedule rest : Schedule} {e : RenderError}
    (planned : r.planChunk writeAt schedule = (.error e, r', rest)) :
    e.Blames (∃ acts ∈ schedule.head?, (r.atReading acts).Refusing) := by
  cases Planned.of_planChunk planned with
  | overflow untimed => exact RenderError.blames_overflow (r.onlyOverflows_timing _ _ untimed)
  | disconnected => exact ⟨nofun, nofun⟩
  | failed _ looked =>
    refine blames_look formed (fun c valid seated failure failed => ?_) looked
    exact seated.plan_blame (Nat.ne_of_gt (WaveFormat.byteRate_pos_of_validate valid))
      (Prod.ext failed rfl)

/-- A pass that feeds a sample fails of the arithmetic only where a word is too short, and of its
lock only if that was made to fail. -/
theorem WellFormed.blames_feedPass (formed : r.WellFormed) {left : Feed} {schedule rest : Schedule}
    {e : RenderError} (passed : r.feedPass left schedule = (.returned (.error e), r', rest)) :
    e.Blames ((Operation.feed left schedule).Refused r) := by
  by_cases idle : left.data.isEmpty ∨ r.state ≠ .running
  · rcases feedPass_idle_cases idle schedule with ⟨-, ends⟩ | ends <;>
      cases ends.symm.trans passed
  rw [feedPass_of_not_idle idle] at passed
  rcases planned : r.planChunk left.writeAt schedule with ⟨_ | _ | place, r₁, rest₁⟩ <;>
    rw [planned] at passed
  · cases passed
    exact formed.blames_planChunk planned
  · cases passed
  obtain ⟨acts, c, timing, plan, positions, t, -, rfl, connected, worked, same, -⟩ :=
    planChunk_inv planned
  have seated := ((formed.persists (r.persists_atReading acts)).connection c connected).seated
  have looked : t = (c.tracker.refresh false).2 := by rw [← refresh_of_plan, worked]
  have written : r₁.writeChunk left.data place = (.returned (.error e), r') :=
    congrArg (fun x => (x.1, x.2.1)) passed
  cases Written.of_writeChunk written with
  | disconnected fresh disconnected => cases disconnected.symm.trans same
  | refused c' fresh connected' refused =>
    obtain rfl := Option.some.inj (same.symm.trans connected')
    have armed := (looked ▸ (seated.refresh false).1).commit_blame refused
    exact ⟨nofun, fun _ _ _ =>
      ⟨acts, rfl, c, connected, seated.lock_of_refresh (looked ▸ armed)⟩⟩

theorem WellFormed.blames_drainPass (formed : r.WellFormed) {schedule rest : Schedule}
    {e : RenderError} (passed : r.drainPass schedule = (.failed e, r', rest)) :
    e.Blames ((Operation.drain schedule).Refused r) := by
  cases Drained.of_drainPass passed with
  | failed busy looked =>
    refine blames_look formed (fun c _ seated failure failed => ?_) looked
    exact seated.refresh_blame (Prod.ext failed rfl)
  | found busy looked verdict => split at verdict <;> cases verdict

/-- What silences the whole ring fails only of its lock. -/
theorem WellFormed.blames_clear (formed : r.WellFormed) (connected : r.connection = some c)
    {e : TransportError} (failed : c.tracker.clear.1 = .error e) :
    RenderError.Blames r.Refusing (.hardware e) :=
  ⟨nofun, fun _ _ _ =>
    ⟨c, connected, (formed.connection c connected).seated.clear_blame failed⟩⟩

theorem WellFormed.blames_finishEnd (formed : r.WellFormed) {drained : Bool} {e : RenderError}
    (failed : (r.finishEnd drained).1 = .error e) : e.Blames r.Refusing := by
  rcases finished : r.finishEnd drained with ⟨answer, r'⟩
  rw [finished] at failed
  cases Finished.of_finishEnd finished with
  | disconnected | cleared => cases failed
  | refused c connected refused =>
    cases failed
    exact formed.blames_clear connected (congrArg Prod.fst refused)

theorem WellFormed.blames_endFlush (formed : r.WellFormed) {e : RenderError}
    (failed : r.endFlush.1 = .error e) : e.Blames r.Refusing := by
  cases connected : r.connection with
  | none =>
    rw [endFlush_of_none connected] at failed
    cases failed
  | some c =>
    rw [endFlush_of_connection connected] at failed
    cases refused : c.tracker.clear.1 <;> rw [refused] at failed <;> cases failed
    exact formed.blames_clear connected refused

end Renderer

end Playout
