import Playout.Proofs.Session.Marks

/-!
# Whether the hardware has overtaken the queued bytes

The tracker knows offsets only. A `Ledger` keeps the positions behind them: how many bytes the
hardware has played and taken, how many it had played when it was last looked at, and where the
bytes end that were queued since the write position was last unset. As long as the hardware stays
less than a lap ahead of the last look, what a look finds is exact: the queued bytes are overtaken
if and only if their end lies behind what the hardware has taken (`Course.Run.looks_exact`).

The invariant is `Ledger.Agrees`: the write position is the offset of that end, which is at least
one byte and at most a lap ahead of the last look. So a write position on the very offset of the
last look is a full ring, not an empty one.

## Design points

* **Any course of operations.** Samples with and without a time, draining, flushes, pauses and
  changes of the rate; a new buffer begins a new ledger.
* **What unsets the write position is left to the operations;** the ledger drops its end when the
  renderer has none. It never drops the end of what has just been written.
-/

namespace Playout

/-- What is to be known about the bytes that the hardware plays. -/
structure Ledger where
  /-- How many bytes the play cursor has passed. -/
  played : Nat := 0
  /-- How many bytes the hardware has taken for playing. -/
  taken : Nat := 0
  /-- How many the play cursor had passed when the cursors were last read. -/
  seen : Option Nat := none
  /-- Where the last bytes that were written end, unless the write position was unset since. -/
  queued : Option Nat := none
  deriving DecidableEq, Repr

namespace Ledger

/-- The hardware as a reading of the cursors of a ring of `size` finds it: it plays less than it has
taken, and has not taken a lap, neither from the play cursor on nor from where that was when it was
last read. -/
structure Reads (l : Ledger) (size : Nat) (cursor : Cursor) : Prop where
  cursor_eq : cursor = ⟨l.played % size, l.taken % size⟩
  ahead : l.played < l.taken
  lap : l.taken < l.played + size
  since : ∀ seen ∈ l.seen, l.taken < seen + size

/-- The ledger after a reading, if there was any. -/
def read (l : Ledger) (reading : Option Cursor) : Ledger :=
  { l with seen := if reading.isSome then some l.played else l.seen }

/-- Where `data` ends that is written from an offset of a ring of `size` on. -/
def stop (l : Ledger) (size offset : Nat) (data : List UInt8) : Nat :=
  l.played + distance (l.played % size) offset size + data.length

/-- The ledger after a commitment, if there was any. -/
def put (l : Ledger) (size : Nat) (commitment : Option (Nat × List UInt8)) : Ledger :=
  match commitment with
  | none => l
  | some (offset, data) =>
    if data = [] then l else { l with queued := some (l.stop size offset data) }

/-- The ledger once the renderer keeps this write position. -/
def keep (l : Ledger) (writePos : Option Nat) : Ledger :=
  { l with queued := if writePos.isSome then l.queued else none }

/-- The offsets that are kept are those of the positions in the ledger, and what is queued ends
ahead of the last reading, by a lap at the most. -/
structure Agrees (l : Ledger) (m : Marks) : Prop where
  pos : 0 < m.size
  unread : l.seen = none → l.queued = none
  writePos_eq : m.writePos = l.queued.map (· % m.size)
  lastPlay_eq : ∀ seen ∈ l.seen, m.lastPlay = seen % m.size
  since : ∀ seen ∈ l.seen, seen ≤ l.played
  ahead : ∀ seen ∈ l.seen, ∀ stop ∈ l.queued, seen < stop ∧ stop ≤ seen + m.size

variable {l : Ledger} {m m' : Marks} {cursor : Cursor}

theorem keep_some (l : Ledger) (offset : Nat) : l.keep (some offset) = l := rfl

theorem put_of_ne (l : Ledger) (size offset : Nat) {data : List UInt8} (more : data ≠ []) :
    l.put size (some (offset, data)) = { l with queued := some (l.stop size offset data) } :=
  if_neg more

theorem agrees_new (pos : 0 < m.size) (unset : m.writePos = none) : ({} : Ledger).Agrees m :=
  ⟨pos, fun _ => rfl, unset, nofun, nofun, nofun⟩

/-- The hardware moves on. -/
theorem Agrees.move (agrees : l.Agrees m) {played : Nat} (forward : l.played ≤ played)
    (taken : Nat) :
    { l with played, taken }.Agrees m where
  pos := agrees.pos
  unread := agrees.unread
  writePos_eq := agrees.writePos_eq
  lastPlay_eq := agrees.lastPlay_eq
  since seen last := Nat.le_trans (agrees.since seen last) forward
  ahead := agrees.ahead

/-- The write position stays or is unset. -/
theorem Agrees.keep (agrees : l.Agrees m) (size_eq : m'.size = m.size)
    (lastPlay_eq : m'.lastPlay = m.lastPlay)
    (writePos : m'.writePos = none ∨ m'.writePos = m.writePos) :
    (l.keep m'.writePos).Agrees m' := by
  have queued : (l.keep m'.writePos).queued = none ∧ m'.writePos = none
      ∨ (l.keep m'.writePos).queued = l.queued ∧ m'.writePos = m.writePos := by
    unfold Ledger.keep
    rcases writePos with unset | same
    · left
      rw [unset]
      exact ⟨rfl, rfl⟩
    · right
      rw [same, agrees.writePos_eq]
      cases l.queued <;> exact ⟨rfl, rfl⟩
  constructor
  case pos =>
    rw [size_eq]
    exact agrees.pos
  case unread =>
    intro unread
    rcases queued with ⟨none_queued, -⟩ | ⟨same, -⟩
    · exact none_queued
    · rw [same]
      exact agrees.unread unread
  case writePos_eq =>
    rcases queued with ⟨none_queued, unset⟩ | ⟨same, kept⟩
    · rw [none_queued, unset]
      rfl
    · rw [same, kept, size_eq]
      exact agrees.writePos_eq
  case lastPlay_eq =>
    intro seen last
    rw [size_eq, lastPlay_eq]
    exact agrees.lastPlay_eq seen last
  case since => exact agrees.since
  case ahead =>
    intro seen last stop there
    rw [size_eq]
    rcases queued with ⟨none_queued, -⟩ | ⟨same, -⟩
    · cases none_queued.symm.trans there
    · exact agrees.ahead seen last stop (same.symm.trans there)

/-- What is queued ends less than a lap ahead of what the hardware has taken. -/
theorem Agrees.stop_lt (agrees : l.Agrees m) (reads : l.Reads m.size cursor) {stop : Nat}
    (queued : l.queued = some stop) :
    stop < l.taken + m.size := by
  cases last : l.seen with
  | none => cases queued.symm.trans (agrees.unread last)
  | some seen =>
    have lap := (agrees.ahead seen last stop queued).2
    have since := agrees.since seen last
    have behind := reads.ahead
    omega

/-! ### Looking -/

/-- What a look makes of the write position, in positions: the queued bytes are overtaken when their
end lies behind what the hardware has taken; once the stream drains, reaching it is enough. -/
theorem Agrees.resync_eq (agrees : l.Agrees m) (reads : l.Reads m.size cursor)
    (draining : Bool) :
    PositionTracker.resync draining m.lastPlay m.writePos cursor.write m.size
      = match l.queued with
        | none => (cursor.write, false, none)
        | some stop =>
          if draining ∧ stop ≤ l.taken then (cursor.write, false, none)
          else if stop < l.taken then (cursor.write, true, none)
          else (stop % m.size, false, some (stop % m.size)) := by
  rw [agrees.writePos_eq]
  cases queued : l.queued with
  | none => rfl
  | some stop =>
    cases last : l.seen with
    | none => cases queued.symm.trans (agrees.unread last)
    | some seen =>
      obtain ⟨after, lap⟩ := agrees.ahead seen last stop queued
      have near := reads.since seen last
      have since := agrees.since seen last
      have behind := reads.ahead
      have software := PositionTracker.softwareLead_of_position after lap
      have hardware : distance (seen % m.size) (l.taken % m.size) m.size = l.taken - seen :=
        distance_of_lt (by omega) near
      -- Both leads count from the last reading.
      have reached : stop - seen ≤ l.taken - seen ↔ stop ≤ l.taken := by omega
      have overtaken : stop - seen < l.taken - seen ↔ stop < l.taken := by omega
      rw [reads.cursor_eq, agrees.lastPlay_eq seen last]
      simp only [Option.map_some, PositionTracker.resync, software, hardware, reached, overtaken]

/-- A look unsets the write position, or leaves it on the end of what is queued if the hardware has
not gone past that. -/
theorem Agrees.writePos_look (agrees : l.Agrees m) (reads : l.Reads m.size cursor)
    (draining : Bool) :
    (m.look draining cursor).writePos = none
      ∨ ∃ stop, l.queued = some stop ∧ l.taken ≤ stop
        ∧ (m.look draining cursor).writePos = some (stop % m.size) := by
  have synced := congrArg (·.2.2) (agrees.resync_eq reads draining)
  unfold Marks.look
  dsimp only at synced ⊢
  rw [synced]
  cases l.queued with
  | none => exact .inl rfl
  | some stop =>
    dsimp only
    split
    · exact .inl rfl
    split
    · exact .inl rfl
    · next untaken => exact .inr ⟨stop, rfl, Nat.not_lt.1 untaken, rfl⟩

theorem Agrees.look (agrees : l.Agrees m) (reads : l.Reads m.size cursor) (draining : Bool) :
    ((l.read (some cursor)).keep (m.look draining cursor).writePos).Agrees
      (m.look draining cursor) := by
  have behind := reads.ahead
  have lastPlay : cursor.play = l.played % m.size := congrArg Cursor.play reads.cursor_eq
  rcases agrees.writePos_look reads draining with unset | ⟨stop, queued, untaken, kept⟩
  · rw [unset]
    refine ⟨agrees.pos, fun _ => rfl, unset, ?_, ?_, nofun⟩
    · rintro _ ⟨⟩
      exact lastPlay
    · rintro _ ⟨⟩
      exact Nat.le_refl _
  · rw [kept, keep_some]
    constructor
    case pos => exact agrees.pos
    case unread => nofun
    case writePos_eq =>
      rw [kept, Ledger.read, queued]
      rfl
    case lastPlay_eq =>
      rintro _ ⟨⟩
      exact lastPlay
    case since =>
      rintro _ ⟨⟩
      exact Nat.le_refl _
    case ahead =>
      rintro _ ⟨⟩ _ there
      obtain rfl := Option.some.inj (queued.symm.trans there)
      cases last : l.seen with
      | none => cases queued.symm.trans (agrees.unread last)
      | some seen =>
        have since := agrees.since seen last
        obtain ⟨-, lap⟩ := agrees.ahead seen last stop queued
        dsimp only [Marks.look]
        omega

/-! ### Committing -/

/-- Bytes written after a look end ahead of it, by a lap at the most, since there was room for them
up to the play cursor. -/
theorem Agrees.write (agrees : l.Agrees m) (read : l.seen = some l.played) {offset : Nat}
    {data : List UInt8} (more : data ≠ []) (offset_lt : offset < m.size)
    (room : data.length ≤ distance offset (l.played % m.size) m.size) :
    (l.put m.size (some (offset, data))).Agrees (m.write offset data) := by
  have pos := agrees.pos
  have some_data := List.length_pos_iff.2 more
  have play_lt := Nat.mod_lt l.played pos
  have apart : offset ≠ l.played % m.size := by
    rintro rfl
    rw [distance_self] at room
    omega
  have around := distance_add_distance play_lt offset_lt apart
  have start := add_distance_mod play_lt offset_lt
  rw [Nat.mod_add_mod] at start
  have there : (offset + min data.length m.size) % m.size
      = l.stop m.size offset data % m.size := by
    calc (offset + min data.length m.size) % m.size
        = ((l.played + distance (l.played % m.size) offset m.size) % m.size + data.length)
          % m.size := by rw [start, Nat.min_eq_left (by omega)]
      _ = l.stop m.size offset data % m.size := Nat.mod_add_mod _ _ _
  have written : (m.write offset data).writePos = some (l.stop m.size offset data % m.size) := by
    rw [Marks.write, if_neg more, there]
  rw [l.put_of_ne m.size offset more]
  refine ⟨pos, ?_, written, agrees.lastPlay_eq, agrees.since, ?_⟩
  · intro unread
    cases read.symm.trans unread
  · intro seen last stop queued
    obtain rfl := Option.some.inj (read.symm.trans last)
    obtain rfl := Option.some.inj queued
    unfold Ledger.stop
    dsimp only [Marks.write]
    omega

/-- A pass that looks, and then writes if there is a place. -/
theorem Agrees.pass (agrees : l.Agrees m) (reads : l.Reads m.size cursor) (draining : Bool)
    {commitment : Option (Nat × List UInt8)}
    (room : ∀ offset data, commitment = some (offset, data) →
      offset < m.size ∧ data.length ≤ distance offset cursor.play m.size) :
    (((l.read (some cursor)).keep ((m.look draining cursor).put commitment).writePos).put m.size
        commitment).Agrees
      ((m.look draining cursor).put commitment) := by
  have looked := agrees.look reads draining
  match commitment with
  | none => exact looked
  | some (offset, data) =>
    by_cases empty : data = []
    · subst empty
      exact looked
    obtain ⟨offset_lt, room⟩ := room offset data rfl
    rw [reads.cursor_eq] at room
    have written := looked.write rfl empty offset_lt room
    -- What was queued before does not matter any more.
    rw [put_of_ne _ _ _ empty] at written ⊢
    exact written

end Ledger

/-! ### Courses -/

/-- A renderer and the ledger of its hardware. -/
structure Course where
  renderer : Renderer
  ledger : Ledger := {}
  deriving DecidableEq, Repr

namespace Course

/-- The course after an operation. Where there was no ring, a new ledger is opened. -/
def operate (s : Course) (op : Operation) : Course where
  renderer := op.apply s.renderer
  ledger := match s.renderer.tracker with
    | none => {}
    | some t =>
      ((s.ledger.read (op.reading s.renderer)).keep
        ((op.apply s.renderer).tracker.bind (·.writePos))).put t.size (op.commitment s.renderer)

/-- The courses that a renderer can take while nobody else writes to its ring, no lock fails, and
the hardware goes on as `Ledger.Reads` says. -/
inductive Run : Course → Prop
  | create {device : VirtualDevice} {config : RendererConfig} {r : Renderer}
      (created : Renderer.create device config = .ok r) :
      Run { renderer := r }
  /-- The hardware plays and takes bytes. -/
  | move {s : Course} {played taken : Nat} (run : Run s) (forward : s.ledger.played ≤ played)
      (onward : s.ledger.taken ≤ taken) :
      Run { s with ledger := { s.ledger with played, taken } }
  /-- An operation takes place; if it reads the cursors, it finds where the hardware is. -/
  | operate {s : Course} {op : Operation} (run : Run s) (harmless : op.harmless = true)
      (found : ∀ cursor ∈ op.reading s.renderer, ∀ t ∈ s.renderer.tracker,
        s.ledger.Reads t.size cursor) :
      Run (s.operate op)

/-- The ledger agrees with the positions that are kept, if there is a ring. -/
structure Sound (s : Course) : Prop where
  formed : s.renderer.WellFormed
  ring : ∀ c ∈ s.renderer.connection,
    c.tracker.view.Sound ∧ s.ledger.Agrees c.tracker.marks

variable {s : Course} {op : Operation}

theorem operate_of_connection {c : Connection} (connected : s.renderer.connection = some c)
    (op : Operation) :
    s.operate op
      = { renderer := op.apply s.renderer
          ledger :=
            ((s.ledger.read (op.reading s.renderer)).keep
              ((op.apply s.renderer).tracker.bind (·.writePos))).put c.tracker.size
                (op.commitment s.renderer) } := by
  unfold Course.operate
  rw [Renderer.tracker_of_connection connected]

/-- On a ring that stays connected the ledger agrees with the positions after an operation. -/
theorem agrees_apply {r : Renderer} {c c' : Connection} {l : Ledger}
    (harmless : op.harmless = true) (formed : r.WellFormed) (connected : r.connection = some c)
    (sound : c.tracker.view.Sound) (agrees : l.Agrees c.tracker.marks)
    (found : ∀ cursor ∈ op.reading r, l.Reads c.tracker.size cursor)
    (after : (op.apply r).connection = some c') :
    (((l.read (op.reading r)).keep c'.tracker.writePos).put c.tracker.size
      (op.commitment r)).Agrees c'.tracker.marks := by
  show ((Ledger.keep _ c'.tracker.marks.writePos).put _ _).Agrees c'.tracker.marks
  by_cases between : op.isBetweenPasses = true
  · obtain ⟨no_reading, no_commitment⟩ : op.reading r = none ∧ op.commitment r = none := by
      cases op with
      | connect | feed | drain => cases between
      | _ => exact ⟨rfl, rfl⟩
    obtain ⟨c₀, connected₀, lasts⟩ := (op.persists_apply between r).connection c' after
    obtain rfl := Option.some.inj (connected.symm.trans connected₀)
    rw [no_reading, no_commitment]
    exact agrees.keep lasts.size_eq lasts.lastPlay_eq lasts.writePos
  cases op with
  | connect format =>
    rw [Operation.apply_connect_of_connected connected] at after
    obtain rfl := Option.some.inj (connected.symm.trans after)
    exact agrees.keep rfl rfl (.inr rfl)
  | feed left schedule =>
    have marks := Operation.marks_feed left harmless sound connected
    rw [Renderer.marks_of_connection after] at marks
    rw [Option.some.inj marks]
    cases read : (Operation.feed left schedule).reading r with
    | none =>
      have uncommitted : (Operation.feed left schedule).commitment r = none := by
        refine Option.not_isSome_iff_eq_none.1 fun commits => ?_
        have answered := Operation.reading_of_commitment commits
        rw [read] at answered
        cases answered
      rw [uncommitted]
      exact agrees.keep rfl rfl (.inr rfl)
    | some cursor =>
      refine agrees.pass (found cursor read) false fun offset data commits => ?_
      obtain ⟨cursor', read', room⟩ := Operation.room_of_commitment formed connected commits
      obtain rfl := Option.some.inj (read.symm.trans read')
      exact room
  | drain schedule =>
    have marks := Operation.marks_drain harmless sound connected
    rw [Renderer.marks_of_connection after] at marks
    rw [Option.some.inj marks]
    cases read : (Operation.drain schedule).reading r with
    | none => exact agrees.keep rfl rfl (.inr rfl)
    | some cursor =>
      have unwritten : ∀ offset data, (none : Option (Nat × List UInt8)) = some (offset, data) →
          offset < c.tracker.size
            ∧ data.length ≤ distance offset cursor.play c.tracker.size := nofun
      exact agrees.pass (found cursor read) true unwritten
  | _ => exact absurd rfl between

theorem Sound.operate (sound : s.Sound) (harmless : op.harmless = true)
    (found : ∀ cursor ∈ op.reading s.renderer, ∀ t ∈ s.renderer.tracker,
      s.ledger.Reads t.size cursor) :
    (s.operate op).Sound := by
  refine ⟨sound.formed.apply op, fun c' (after : (op.apply s.renderer).connection = _) => ?_⟩
  have after' : (op.apply s.renderer).ringView = some c'.tracker.view :=
    congrArg (Option.map _) (Renderer.tracker_of_connection after)
  cases connected : s.renderer.connection with
  | none =>
    have untracked : s.renderer.tracker = none := by rw [Renderer.tracker, connected]; rfl
    have disconnected : s.renderer.ringView = none := by rw [Renderer.ringView, untracked]; rfl
    obtain ⟨view, -⟩ :=
      Operation.ringView_apply_of_none harmless disconnected _ after'
    have unset := Operation.writePos_of_new connected c' after
    rw [Course.operate, untracked]
    exact ⟨view, Ledger.agrees_new view.pos unset⟩
  | some c =>
    obtain ⟨view, agrees⟩ := sound.ring c connected
    have before : s.renderer.ringView = some c.tracker.view :=
      congrArg (Option.map _) (Renderer.tracker_of_connection connected)
    rw [operate_of_connection connected, Renderer.tracker_of_connection after, Option.bind_some]
    refine ⟨?_, agrees_apply harmless sound.formed connected view agrees ?_ after⟩
    · rcases Operation.ringView_apply harmless view before with released | kept
      · cases released.symm.trans after'
      · rw [Option.some.inj (after'.symm.trans kept)]
        exact Operation.sound_ringAfter view op s.renderer
    · exact fun cursor read =>
        found cursor read c.tracker (Renderer.tracker_of_connection connected)

theorem Run.sound (run : s.Run) : s.Sound := by
  induction run with
  | create created =>
    have formed := Renderer.wellFormed_of_create created
    obtain ⟨-, rfl⟩ := Renderer.create_inv created
    exact ⟨formed, fun c connected => absurd connected (Option.not_mem_none c)⟩
  | move run forward onward sound =>
    refine ⟨sound.formed, fun c connected => ?_⟩
    obtain ⟨view, agrees⟩ := sound.ring c connected
    exact ⟨view, agrees.move forward _⟩
  | operate run harmless found sound => exact sound.operate harmless found

/-! ### What a look finds -/

/-- When the cursors are read, the ledger still agrees with the positions. -/
theorem Run.sound_atReading (run : s.Run) {acts : List Disturbance}
    (harmless : acts.all Disturbance.harmless = true) {c : Connection}
    (connected : (s.renderer.atReading acts).connection = some c) :
    c.tracker.view.Sound ∧ s.ledger.Agrees c.tracker.marks := by
  obtain ⟨c₀, connected₀, -⟩ := (s.renderer.persists_atReading acts).connection c connected
  obtain ⟨c', connected', -, marks, view⟩ := Renderer.exists_atReading connected₀ harmless
  obtain rfl := Option.some.inj (connected'.symm.trans connected)
  rw [marks, view]
  exact run.sound.ring c₀ connected₀

/-- A stream with a listener that has queued three bytes behind the hardware. -/
def queuedThree : Course :=
  let new : Course := { renderer := Renderer.unconnected.listen }
  let running := (new.operate (.connect (.pcm 1000 1 8))).operate (.start 0)
  let taken := { running with ledger := { running.ledger with played := 0, taken := 3 } }
  taken.operate (.feed ⟨[1, 2, 3], none⟩ [[.setCursor 0 3]])

theorem run_queuedThree : queuedThree.Run := by
  have created := Run.create (show Renderer.create Renderer.unconnected.device
    Renderer.unconnected.config = .ok _ from rfl)
  have listening : Run (Course.operate _ .listen) := created.operate rfl nofun
  have connected : Run (Course.operate _ (.connect (.pcm 1000 1 8))) := listening.operate rfl nofun
  have running : Run (Course.operate _ (.start 0)) := connected.operate rfl nofun
  have taken := running.move (show _ ≤ 0 from Nat.le_refl _) (show _ ≤ 3 from Nat.zero_le _)
  exact taken.operate rfl (by rintro _ ⟨⟩ _ ⟨⟩; exact ⟨rfl, by decide, by decide, nofun⟩)

/-- Along every course, whenever the hardware answers: a look while the stream goes on reports an
underrun, and unsets the write position, if and only if the queued bytes end before what the
hardware has taken; otherwise the write position is their end, and the next byte goes there. Once
the stream drains, the next byte follows the hardware and the write position is unset if and only
if the hardware has reached their end, and no underrun is reported. While nothing is queued, the
next byte follows the hardware. -/
theorem Run.looks_exact (run : s.Run) {acts : List Disturbance}
    (harmless : acts.all Disturbance.harmless = true) {t : PositionTracker}
    (tracked : (s.renderer.atReading acts).tracker = some t) {cursor : Cursor}
    (answered : t.answer = some cursor) (reads : s.ledger.Reads t.size cursor) :
    ∃ found t' drained t'', t.update = (.ok found, t') ∧ t.updateDraining = (.ok drained, t'')
      ∧ found.minimum = s.ledger.taken % t.size ∧ drained.minimum = s.ledger.taken % t.size
      ∧ drained.underrun = false
      ∧ match s.ledger.queued with
        | none => found.underrun = false ∧ found.sequential = found.minimum
          ∧ drained.sequential = drained.minimum
        | some stop =>
          (found.underrun = true ↔ stop < s.ledger.taken)
          ∧ (stop < s.ledger.taken → found.sequential = found.minimum ∧ t'.writePos = none)
          ∧ (s.ledger.taken ≤ stop →
            found.sequential = stop % t.size ∧ t'.writePos = some (stop % t.size))
          ∧ (drained.sequential = drained.minimum ↔ stop ≤ s.ledger.taken)
          ∧ (stop ≤ s.ledger.taken → t''.writePos = none)
          ∧ (s.ledger.taken < stop →
            drained.sequential = stop % t.size ∧ t''.writePos = some (stop % t.size)) := by
  obtain ⟨c, connected, rfl⟩ := Option.map_eq_some_iff.1 tracked
  obtain ⟨sound, agrees⟩ := run.sound_atReading harmless connected
  have minimum : cursor.write = s.ledger.taken % c.tracker.size :=
    congrArg Cursor.write reads.cursor_eq
  have going := agrees.resync_eq reads false
  have draining := agrees.resync_eq reads true
  refine ⟨_, _, _, _, PositionTracker.refresh_of_answer false sound answered,
    PositionTracker.refresh_of_answer true sound answered, minimum, minimum,
    PositionTracker.resync_draining_underrun .., ?_⟩
  unfold PositionTracker.found PositionTracker.looked
  unfold PositionTracker.marks at going draining
  dsimp only at going draining ⊢
  rw [going, draining]
  cases queued : s.ledger.queued with
  | none => exact ⟨rfl, rfl, rfl⟩
  | some stop =>
    dsimp only
    have lap : stop < s.ledger.taken + c.tracker.size := agrees.stop_lt reads queued
    rw [minimum]
    rcases Nat.lt_trichotomy stop s.ledger.taken with before | rfl | behind
    · simp [before, Nat.le_of_lt before, Nat.not_le.2 before]
    · simp
    · have apart := mod_ne_of_lt behind lap
      simp [Nat.le_of_lt behind, Nat.not_le.2 behind, Nat.not_lt.2 (Nat.le_of_lt behind), apart]

/-- Three bytes are queued up to position 6, and the hardware has taken all before position 8 when
it is looked at again. -/
theorem looks_exact_of_overtaken :
    ∃ s t found t', Run s ∧ s.ledger.queued = some 6 ∧ s.ledger.taken = 8
      ∧ (s.renderer.atReading [.setCursor 5 8]).tracker = some t
      ∧ t.update = (.ok found, t') ∧ found.underrun = true := by
  have overtaken := run_queuedThree.move (show _ ≤ 5 from Nat.zero_le _) (show _ ≤ 8 by decide)
  have harmless : [Disturbance.setCursor 5 8].all Disturbance.harmless = true := rfl
  obtain ⟨found, t', -, -, looked, -, -, -, -, underrun, -⟩ :=
    overtaken.looks_exact harmless rfl rfl
      ⟨rfl, by decide, by decide, by rintro _ ⟨⟩; decide⟩
  exact ⟨_, _, found, t', overtaken, rfl, rfl, rfl, looked, underrun.2 (by decide)⟩

end Course

end Playout
