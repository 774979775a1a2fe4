import Playout.Proofs.Planner.Placement
import Playout.Proofs.Session.Geometry
import Playout.Proofs.Session.Ring

/-!
# What operations do to the positions on the ring

The `Marks` of a tracker are the positions that it keeps: where the play cursor was when it last
looked, and where the next byte goes. An answered look moves the first and may unset the second, a
commitment sets the second (`marks_feed`, `marks_drain`). Between passes the first stays and the
second stays or is unset, as `Renderer.Persists` says; a new connection has none.
-/

namespace Playout

/-- A ring as far as the positions on it are concerned. -/
structure Marks where
  size : Nat
  lastPlay : Nat
  writePos : Option Nat
  deriving DecidableEq, Repr

namespace Marks

/-- After a look that read this cursor. -/
def look (m : Marks) (draining : Bool) (cursor : Cursor) : Marks :=
  { m with
    lastPlay := cursor.play
    writePos :=
      (PositionTracker.resync draining m.lastPlay m.writePos cursor.write m.size).2.2 }

/-- After a look with this answer, if there was any. -/
def read (m : Marks) (draining : Bool) (answer : Option Cursor) : Marks :=
  match answer with
  | none => m
  | some cursor => m.look draining cursor

/-- After `data` was put at `offset`. -/
def write (m : Marks) (offset : Nat) (data : List UInt8) : Marks :=
  { m with
    writePos := if data = [] then m.writePos
      else some ((offset + min data.length m.size) % m.size) }

/-- After a commitment of data to an offset, if there was any. -/
def put (m : Marks) (commitment : Option (Nat × List UInt8)) : Marks :=
  match commitment with
  | none => m
  | some (offset, data) => m.write offset data

end Marks

namespace PositionTracker

variable {t : PositionTracker}

/-- The positions that it keeps, on a ring of its size. -/
def marks (t : PositionTracker) : Marks where
  size := t.size
  lastPlay := t.lastPlay
  writePos := t.writePos

theorem marks_refresh (sound : t.view.Sound) (draining : Bool) :
    (t.refresh draining).2.marks = t.marks.read draining t.answer := by
  unfold answer
  split
  · next armed => rw [refresh_of_armed draining armed]; rfl
  · next answering => rw [refresh_eq draining sound (by simpa using answering)]; rfl

/-- A planned place is on the ring and has room up to the play cursor. -/
theorem Seated.place_inv (seated : t.Seated) {p : WritePlanner} {f : WaveFormat}
    {timing : Option Timing} {target free skip gap : Nat} {positions : Positions}
    {t' : PositionTracker}
    (planned : p.plan t f timing = (.ok (.ready target free skip gap, positions), t')) :
    t.answer = some t.ring.buffer.position ∧ target < t.size
      ∧ free = distance target t.ring.buffer.position.play t.size := by
  have answered := Renderer.answer_of_plan (congrArg Prod.fst planned)
  obtain ⟨found, place⟩ := seated.plan_inv planned
  obtain ⟨spans, last_lt, write_lt⟩ := seated
  obtain ⟨play_lt, minimum_lt⟩ := spans.position
  have sequential_lt : positions.sequential < t.size := by
    rw [found]
    exact resync_lt false minimum_lt write_lt
  have below : positions.minimum < t.size := by
    rw [found]
    exact minimum_lt
  obtain ⟨room, -⟩ := WritePlanner.placement_of_place place
  refine ⟨?_, ?_, room⟩
  · unfold answer at answered ⊢
    split at answered
    · cases answered
    · next answering => rw [if_neg answering]
  · rcases WritePlanner.distance_target play_lt below place with ⟨rfl, -⟩ | ⟨lt, -⟩
    · exact sequential_lt
    · exact lt

end PositionTracker

namespace Renderer

variable {r r' : Renderer} {c : Connection}

/-- The positions kept of the connection. -/
def marks (r : Renderer) : Option Marks := r.tracker.map (·.marks)

theorem marks_of_connection (connected : r.connection = some c) :
    r.marks = some c.tracker.marks := by
  rw [marks, tracker_of_connection connected, Option.map_some]

theorem marks_setTracker (connected : r.connection = some c) (t : PositionTracker) :
    (r.setTracker t).marks = some t.marks := by
  rw [marks, tracker, setTracker, connected]
  rfl

/-- What the outside does before a reading leaves the positions, and harmless acts leave the
bytes. -/
theorem exists_atReading (connected : r.connection = some c) {acts : List Disturbance}
    (harmless : acts.all Disturbance.harmless = true) :
    ∃ c', (r.atReading acts).connection = some c' ∧ c'.format = c.format
      ∧ c'.tracker.marks = c.tracker.marks ∧ c'.tracker.view = c.tracker.view := by
  obtain ⟨b, connected'⟩ := connection_atReading connected acts
  refine ⟨_, connected', rfl, rfl, ?_⟩
  have kept := (r.keeps_atReading harmless).ringView_eq
  rw [ringView, ringView, tracker_of_connection connected', tracker_of_connection connected]
    at kept
  exact Option.some.inj kept

theorem marks_of_look {schedule rest : Schedule}
    {work : Connection → Except Failure α × PositionTracker} {answer : Except RenderError α}
    {draining : Bool} (harmless : schedule.harmless = true) (sound : c.tracker.view.Sound)
    (connected : r.connection = some c)
    (refreshes : ∀ c, (work c).2 = (c.tracker.refresh draining).2)
    (looked : r.look schedule work = (answer, r', rest)) :
    r'.marks = some (c.tracker.marks.read draining (r.answer schedule)) := by
  cases Looked.of_look looked with
  | unscheduled => exact marks_of_connection connected
  | disconnected acts disconnected =>
    have harmless := Schedule.harmless_head harmless
    obtain ⟨c', connected', -⟩ := exists_atReading connected harmless
    cases disconnected.symm.trans connected'
  | failed acts c₀ connected₀ | found acts c₀ connected₀ =>
    have harmless := Schedule.harmless_head harmless
    obtain ⟨c', connected', -, same, view⟩ := exists_atReading connected harmless
    obtain rfl := Option.some.inj (connected₀.symm.trans connected')
    rw [marks_setTracker connected', refreshes, c₀.tracker.marks_refresh (view ▸ sound), same,
      Renderer.answer, tracker_of_connection connected', Option.bind_some]

theorem marks_of_planChunk {writeAt : Option Ticks} {schedule rest : Schedule}
    {chunk : Except RenderError (Option Chunk)} (harmless : schedule.harmless = true)
    (sound : c.tracker.view.Sound) (connected : r.connection = some c)
    (planned : r.planChunk writeAt schedule = (chunk, r', rest)) :
    r'.marks = some (c.tracker.marks.read false (r.planAnswer writeAt schedule)) := by
  cases Planned.of_planChunk planned with
  | overflow untimed =>
    rw [planAnswer_of_overflow untimed]
    exact marks_of_connection connected
  | disconnected disconnected => cases disconnected.symm.trans connected
  | failed timed looked | found timed looked =>
    have same := marks_of_look harmless sound connected (fun _ => refresh_of_plan ..) looked
    rw [planAnswer_of_timing timed]
    exact same

theorem marks_writeChunk (sound : c.tracker.view.Sound) (connected : r.connection = some c)
    (data : List UInt8) (chunk : Chunk) :
    (r.writeChunk data chunk).2.marks = some (c.tracker.marks.put (placed data chunk)) := by
  rcases written : r.writeChunk data chunk with ⟨outcome, r'⟩
  cases Written.of_writeChunk written with
  | stale stale =>
    rw [placed, if_pos stale]
    exact marks_of_connection connected
  | disconnected fresh disconnected => cases disconnected.symm.trans connected
  | refused c' fresh connected' refused =>
    obtain rfl := Option.some.inj (connected.symm.trans connected')
    rw [c.tracker.commit_eq sound] at refused
    cases refused
  | granted c' fresh connected' granted =>
    obtain rfl := Option.some.inj (connected.symm.trans connected')
    rw [c.tracker.commit_eq sound] at granted
    cases granted
    rw [placed, if_neg (Nat.not_le.2 fresh)]
    exact marks_setTracker connected _

end Renderer

/-! ### Passes -/

namespace Operation

open Renderer (marks_of_connection)

variable {r : Renderer} {c : Connection}

theorem marks_feed (left : Feed) {schedule : Schedule} (harmless : schedule.harmless = true)
    (sound : c.tracker.view.Sound) (connected : r.connection = some c) :
    ((feed left schedule).apply r).marks
      = some ((c.tracker.marks.read false ((feed left schedule).reading r)).put
        ((feed left schedule).commitment r)) := by
  rw [apply]
  by_cases idle : left.data.isEmpty ∨ r.state ≠ .running
  · obtain ⟨stats, counted⟩ := Renderer.feedPass_of_idle idle schedule
    rw [reading_feed_of_idle idle, commitment_feed_of_idle idle, counted]
    exact marks_of_connection connected
  rw [reading_feed idle, commitment_feed idle, Renderer.feedPass_of_not_idle idle]
  rcases planned : r.planChunk left.writeAt schedule with ⟨_ | _ | chunk, r', rest⟩
  all_goals have kept := Renderer.marks_of_planChunk harmless sound connected planned
  · exact kept
  · exact kept
  · have view : r.ringView = some c.tracker.view := by
      rw [Renderer.ringView, Renderer.tracker_of_connection connected, Option.map_some]
    have view' := Renderer.ringView_of_planChunk harmless sound view planned
    obtain ⟨c', connected', same⟩ := Renderer.exists_of_ringView view'
    rw [marks_of_connection connected'] at kept
    rw [← Option.some.inj kept]
    exact Renderer.marks_writeChunk (same ▸ sound.read _) connected' left.data chunk

theorem marks_drain {schedule : Schedule} (harmless : schedule.harmless = true)
    (sound : c.tracker.view.Sound) (connected : r.connection = some c) :
    ((drain schedule).apply r).marks
      = some (c.tracker.marks.read true ((drain schedule).reading r)) := by
  rw [apply]
  rcases passed : r.drainPass schedule with ⟨outcome, r', rest⟩
  cases Renderer.Drained.of_drainPass passed with
  | interrupted idle =>
    rw [reading_drain_of_idle idle]
    exact marks_of_connection connected
  | failed busy looked | found busy looked =>
    rw [reading_drain busy]
    have kept := Renderer.marks_of_look harmless sound connected (fun _ => rfl) looked
    exact kept

/-- What is written was planned a place on the ring by a look, with room for it up to the play
cursor. -/
theorem room_of_commitment {op : Operation} (formed : r.WellFormed)
    (connected : r.connection = some c) {offset : Nat} {data : List UInt8}
    (commits : op.commitment r = some (offset, data)) :
    ∃ cursor, op.reading r = some cursor ∧ offset < c.tracker.size
      ∧ data.length ≤ distance offset cursor.play c.tracker.size := by
  cases op with
  | feed left schedule =>
    obtain ⟨busy, chunk, r', rest, planned, placed⟩ := commitment_feed_inv commits
    obtain ⟨acts, c', timing, plan, positions, t, timed, rfl, connected', worked, -, place⟩ :=
      Renderer.planChunk_inv planned
    obtain ⟨b, connected''⟩ := Renderer.connection_atReading connected acts
    obtain rfl := Option.some.inj (connected''.symm.trans connected')
    have disturbed := formed.persists (r.persists_atReading acts)
    cases plan with
    | blocked => cases place
    | ready target free skip gap =>
      cases place
      cases Renderer.placed_inv placed
      obtain ⟨answered, target_lt, room⟩ :=
        (disturbed.connection _ connected').seated.place_inv worked
      have length_le := List.length_take_le free (left.data.drop skip)
      refine ⟨b.position, ?_, target_lt, Nat.le_trans length_le (Nat.le_of_eq room)⟩
      rw [reading_feed busy, Renderer.planAnswer_of_timing timed, Renderer.answer,
        Renderer.tracker_of_connection connected', Option.bind_some]
      exact answered
  | _ => cases commits

/-! ### Other operations -/

/-- A new connection has no write position. -/
theorem writePos_of_new {op : Operation} (disconnected : r.connection = none) :
    ∀ c ∈ (op.apply r).connection, c.tracker.writePos = none := by
  have kept {r' : Renderer} (keeps : r.Keeps r') : r'.connection = none := by
    have gone := keeps.ringView_eq
    unfold Renderer.ringView Renderer.tracker at gone
    simpa [disconnected] using gone
  intro c connected
  by_cases between : op.isBetweenPasses = true
  · obtain ⟨c', connected', -⟩ := (op.persists_apply between r).connection c connected
    cases disconnected.symm.trans connected'
  cases op with
  | connect format =>
    rcases h : r.connect format with ⟨answer, r'⟩
    have connected' : r'.connection = some c := by
      rw [← connected, apply, h]
    rcases Renderer.connect_inv h with ⟨rfl, -⟩ | ⟨-, buffer, device, -, rfl⟩
    · cases disconnected.symm.trans connected'
    · cases connected'
      rfl
  | feed left schedule =>
    cases (kept (Renderer.keeps_feedPass_of_none disconnected left schedule)).symm.trans connected
  | drain schedule =>
    cases (kept (Renderer.keeps_drainPass_of_none disconnected schedule)).symm.trans connected
  | _ => exact absurd rfl between

/-- A connection is in the way of another one. -/
theorem apply_connect_of_connected (connected : r.connection = some c) (format : WaveFormat) :
    (connect format).apply r = r := by
  rcases h : r.connect format with ⟨answer, r'⟩
  rw [apply, h]
  rcases Renderer.connect_inv h with ⟨rfl, -⟩ | ⟨⟨-, -, disconnected, -⟩, -⟩
  · rfl
  · rw [Renderer.connected, connected] at disconnected
    cases disconnected

end Operation

end Playout
