import Mathlib.Data.List.Basic
import Playout.Proofs.Ring.Log
import Playout.Proofs.Session.Untimed

/-!
# A stream without a clock loses nothing

A `Delivery` follows an untimed stream from its first sample on: what was handed over, what was
committed and at which position, and what was heard. A position counts the bytes from the beginning
of the stream, so that a lap of the ring comes after the one before it
(`Playout.Proofs.Ring.Position`).

Between two passes the hardware plays and takes bytes as it likes, as long as it stays less than a
lap ahead of the last reading. Then nothing committed is lost before it is heard, and what is heard
are the samples' data in order, with silence in between.

## Design points

* **The write position is a position.** `Agrees.next` reads the offset that the tracker keeps as a
  position behind everything committed, at most a lap after the last reading; the offset of the
  reading itself is a whole lap.
* **Offsets are read from the play cursor on,** since what is behind it was heard.
-/

namespace Playout

/-- What became of the bytes of a stream. -/
structure Playback where
  /-- The bytes that the play cursor has passed. -/
  heard : List UInt8 := []
  /-- How many bytes the hardware has taken for playing. -/
  taken : Nat := 0
  /-- How many bytes had been heard when the cursors were last read. -/
  seen : Option Nat := none
  /-- The bytes put on the ring, with their positions. -/
  committed : List (Nat × UInt8) := []
  deriving DecidableEq, Repr

namespace Playback

/-- How many bytes were heard. -/
def played (p : Playback) : Nat := p.heard.length

/-- The next position that lies at an offset of a ring of `size`. -/
def position (p : Playback) (offset size : Nat) : Nat :=
  p.played + distance (p.played % size) offset size

/-- The bytes heard at committed positions, in the order in which they were heard. -/
def delivered (p : Playback) : List UInt8 :=
  (List.range p.played).filterMap fun x =>
    if (p.committed.lookup x).isSome then p.heard[x]? else none

/-- The playback after a pass on a ring of `size` with these readings and commitments. -/
def enter (p : Playback) (size : Nat) (reading : Option Cursor)
    (commitment : Option (Nat × List UInt8)) : Playback :=
  { p with
    seen := if reading.isSome then some p.played else p.seen
    committed := match commitment with
      | some (offset, data) => p.committed ++ numbered (p.position offset size) data
      | none => p.committed }

/-! ### Agreement -/

/-- The byte that belongs at a position: what was committed there, or else silence. -/
def due (p : Playback) (silence : UInt8) (x : Nat) : UInt8 := (p.committed.lookup x).getD silence

/-- Nothing belongs behind everything committed. -/
theorem due_of_le {p : Playback} {y x : Nat} (committed : ∀ entry ∈ p.committed, entry.1 < y)
    (le : y ≤ x) (silence : UInt8) :
    p.due silence x = silence := by
  rw [due, lookup_eq_none_of_lt fun entry mem => Nat.lt_of_lt_of_le (committed entry mem) le,
    Option.getD_none]

/-- What a write position says: all that was committed is behind it, and it is at most a lap after
the last reading. Unset, it stands for what the hardware has taken. -/
def Queued (p : Playback) (size seen : Nat) : Option Nat → Prop
  | none => ∀ entry ∈ p.committed, entry.1 < p.taken
  | some offset => ∃ y, seen < y ∧ y ≤ seen + size ∧ y % size = offset
    ∧ ∀ entry ∈ p.committed, entry.1 < y

/-- The log agrees with the ring and with the write position that is kept for it. -/
structure Agrees (p : Playback) (v : RingView) (writePos : Option Nat) : Prop where
  sound : v.Sound
  behind : p.played ≤ p.taken
  ahead : p.taken < p.played + v.size
  sorted : p.committed.Pairwise (·.1 < ·.1)
  heard : ∀ x < p.played, p.heard[x]? = some (p.due v.silence x)
  unread : p.seen = none → p.committed = [] ∧ writePos = none
    ∧ ∀ i < v.size, v.bytes[i]? = some v.silence
  lap : ∀ seen ∈ p.seen, seen ≤ p.played ∧ p.taken < seen + v.size
  lastPlay : ∀ seen ∈ p.seen, v.lastPlay = seen % v.size
  queued : ∀ seen ∈ p.seen, p.Queued v.size seen writePos
  ring : ∀ seen ∈ p.seen, ∀ x, p.played ≤ x → x < seen + v.size →
    v.bytes[x % v.size]? = some (p.due v.silence x)

variable {p : Playback} {v : RingView} {writePos : Option Nat}

theorem Agrees.take (agrees : p.Agrees v writePos) {taken : Nat} (forward : p.taken ≤ taken)
    (ahead : taken < p.played + v.size) (lap : ∀ seen ∈ p.seen, taken < seen + v.size) :
    { p with taken }.Agrees v writePos where
  sound := agrees.sound
  behind := Nat.le_trans agrees.behind forward
  ahead := ahead
  sorted := agrees.sorted
  heard := agrees.heard
  unread := agrees.unread
  lap seen last := ⟨(agrees.lap seen last).1, lap seen last⟩
  lastPlay := agrees.lastPlay
  queued seen last := by
    have queued := agrees.queued seen last
    cases writePos with
    | none => exact fun entry mem => Nat.lt_of_lt_of_le (queued entry mem) forward
    | some offset => exact queued
  ring := agrees.ring

/-- The byte under the play cursor is the one that belongs there. -/
theorem Agrees.under (agrees : p.Agrees v writePos) (behind : p.played < p.taken) :
    v.bytes[p.played % v.size]? = some (p.due v.silence p.played) := by
  cases last : p.seen with
  | none =>
    obtain ⟨uncommitted, -, silent⟩ := agrees.unread last
    rw [silent _ (Nat.mod_lt _ agrees.sound.pos), due, uncommitted]
    rfl
  | some seen =>
    have lap := (agrees.lap seen last).2
    exact agrees.ring seen last _ (Nat.le_refl _) (Nat.lt_trans behind lap)

theorem Agrees.play (agrees : p.Agrees v writePos) {byte : UInt8} (behind : p.played < p.taken)
    (under : v.bytes[p.played % v.size]? = some byte) :
    { p with heard := p.heard ++ [byte] }.Agrees v writePos := by
  have played : ({ p with heard := p.heard ++ [byte] } : Playback).played = p.played + 1 := by
    rw [Playback.played, List.length_append]
    rfl
  refine ⟨agrees.sound, ?_, ?_, agrees.sorted, ?_, agrees.unread, ?_, agrees.lastPlay, ?_, ?_⟩
  · rw [played]
    exact behind
  · rw [played]
    have : p.taken < p.played + v.size := agrees.ahead
    show p.taken < p.played + 1 + v.size
    omega
  · intro x lt
    rw [played] at lt
    show (p.heard ++ [byte])[x]? = some (p.due v.silence x)
    rcases Nat.lt_or_eq_of_le (Nat.le_of_lt_succ lt) with before | rfl
    · rw [List.getElem?_append_left before]
      exact agrees.heard x before
    · exact List.getElem?_concat_length.trans (under.symm.trans (agrees.under behind))
  · intro seen last
    rw [played]
    exact ⟨Nat.le_succ_of_le (agrees.lap seen last).1, (agrees.lap seen last).2⟩
  · intro seen last
    have queued := agrees.queued seen last
    cases writePos <;> exact queued
  · intro seen last x le lt
    rw [played] at le
    exact agrees.ring seen last x (Nat.le_of_succ_le le) lt

/-- Nothing was played on a silent ring. -/
theorem agrees_silent (sound : v.Sound) (silent : v = v.clear) :
    ({} : Playback).Agrees v none where
  sound := sound
  behind := Nat.le_refl _
  ahead := Nat.lt_add_left _ sound.pos
  sorted := .nil
  heard := nofun
  unread _ := by
    refine ⟨rfl, rfl, fun i lt => ?_⟩
    rw [silent]
    exact List.getElem?_replicate_of_lt lt
  lap := nofun
  lastPlay := nofun
  queued := nofun
  ring := nofun

/-! ### Looking -/

/-- What a look makes of the write position: the next byte goes to a position `y` that the hardware
has not taken, at most a lap ahead of the play cursor and behind everything committed. -/
theorem Agrees.resync (agrees : p.Agrees v writePos) {next : Nat} {underrun : Bool}
    {writePos' : Option Nat}
    (synced : PositionTracker.resync false v.lastPlay writePos (p.taken % v.size) v.size
      = (next, underrun, writePos')) :
    ∃ y, y % v.size = next ∧ p.taken ≤ y ∧ y ≤ p.played + v.size
      ∧ (∀ entry ∈ p.committed, entry.1 < y)
      ∧ (writePos' = none ∧ y = p.taken ∨ writePos' = some next) := by
  have ahead := agrees.ahead
  cases writePos with
  | none =>
    cases synced
    refine ⟨p.taken, rfl, Nat.le_refl _, Nat.le_of_lt ahead, ?_, .inl ⟨rfl, rfl⟩⟩
    cases last : p.seen with
    | none =>
      rw [(agrees.unread last).1]
      nofun
    | some seen => exact agrees.queued seen last
  | some offset =>
    cases last : p.seen with
    | none => cases (agrees.unread last).2.1
    | some seen =>
      obtain ⟨y, after, lap, rfl, committed⟩ := agrees.queued seen last
      obtain ⟨since, near⟩ := agrees.lap seen last
      have behind := agrees.behind
      -- The hardware has overtaken the write position if it took more since than lay ahead.
      unfold PositionTracker.resync at synced
      dsimp only at synced
      rw [agrees.lastPlay seen last, PositionTracker.softwareLead_of_position after lap,
        distance_of_lt (by omega) near, if_neg (by simp)] at synced
      split at synced
      · cases synced
        exact ⟨p.taken, rfl, Nat.le_refl _, Nat.le_of_lt ahead,
          fun entry mem => Nat.lt_trans (committed entry mem) (by omega), .inl ⟨rfl, rfl⟩⟩
      · cases synced
        exact ⟨y, rfl, by omega, by omega, committed, .inr rfl⟩

theorem Agrees.committed_lt (agrees : p.Agrees v writePos) {seen : Nat}
    (last : p.seen = some seen) :
    ∀ entry ∈ p.committed, entry.1 < seen + v.size := by
  intro entry mem
  have queued := agrees.queued seen last
  cases writePos with
  | none => exact Nat.lt_trans (queued entry mem) (agrees.lap seen last).2
  | some offset =>
    obtain ⟨y, -, lap, -, committed⟩ := queued
    exact Nat.lt_of_lt_of_le (committed entry mem) lap

/-- After a look the log agrees with the ring for a lap from the play cursor on: what was heard
since the last look is silenced, and nothing was committed to the lap after it. -/
theorem Agrees.look (agrees : p.Agrees v writePos) {next : Nat} {underrun : Bool}
    {writePos' : Option Nat}
    (synced : PositionTracker.resync false v.lastPlay writePos (p.taken % v.size) v.size
      = (next, underrun, writePos')) :
    { p with seen := some p.played }.Agrees (v.look (p.played % v.size)) writePos' := by
  have pos := agrees.sound.pos
  have ahead := agrees.ahead
  have behind := agrees.behind
  obtain ⟨y, rfl, untaken, lap, committed, next⟩ := agrees.resync synced
  refine ⟨agrees.sound.look _, behind, ahead, agrees.sorted, agrees.heard, nofun, ?_, ?_, ?_, ?_⟩
  · rintro _ ⟨⟩
    exact ⟨Nat.le_refl _, ahead⟩
  · rintro _ ⟨⟩
    rfl
  · rintro _ ⟨⟩
    rcases next with ⟨rfl, rfl⟩ | rfl
    · exact committed
    -- On the play cursor itself the next byte is a whole lap ahead.
    rcases Nat.lt_or_ge p.played y with after | there
    · exact ⟨y, after, lap, rfl, committed⟩
    · refine ⟨y + v.size, Nat.lt_of_lt_of_le (Nat.lt_add_of_pos_right pos)
        (Nat.add_le_add_right (Nat.le_trans behind untaken) _), Nat.add_le_add_right there _,
        Nat.add_mod_right .., fun entry mem => ?_⟩
      exact Nat.lt_add_right _ (committed entry mem)
  · rintro _ ⟨⟩ x le (lt : x < p.played + v.size)
    cases last : p.seen with
    | none =>
      obtain ⟨uncommitted, -, silent⟩ := agrees.unread last
      have inside := Nat.mod_lt x pos
      refine (RingView.getElem?_look_of_silent agrees.sound inside (silent _ inside) _).trans ?_
      rw [due, uncommitted]
      rfl
    | some seen =>
      obtain ⟨since, near⟩ := agrees.lap seen last
      -- What the look silences lies a lap after what was played since.
      refine (RingView.getElem?_look agrees.sound (agrees.lastPlay seen last) since (by omega) le
        lt).trans ?_
      split
      · next within => exact agrees.ring seen last x le within
      · next beyond =>
        exact congrArg some
          (due_of_le (agrees.committed_lt last) (Nat.not_lt.1 beyond) v.silence).symm

/-! ### Committing -/

/-- What belongs at a position once `data` was put behind everything committed. -/
theorem due_append {y : Nat} (committed : ∀ entry ∈ p.committed, entry.1 < y) (data : List UInt8)
    (silence : UInt8) (x : Nat) :
    { p with committed := p.committed ++ numbered y data }.due silence x
      = if y ≤ x then (data[x - y]?).getD silence else p.due silence x := by
  rw [due, List.lookup_append, lookup_numbered]
  split
  · next behind =>
    rw [lookup_eq_none_of_lt fun entry mem => Nat.lt_of_lt_of_le (committed entry mem) behind,
      Option.none_or]
  · rw [Option.or_none, due]

/-- Up to the play cursor there is room only behind it and less than a lap ahead of it. -/
theorem room_of_distance {size played y len : Nat} (le : played ≤ y) (lap : y ≤ played + size)
    (more : 0 < len) (room : len ≤ distance (y % size) (played % size) size) :
    played < y ∧ y + len ≤ played + size := by
  rw [← Nat.add_mod_right played] at room
  rcases Nat.lt_or_eq_of_le le with after | rfl
  · rw [distance_of_lt lap (by omega)] at room
    omega
  · rw [Nat.add_mod_right, distance_self] at room
    omega

/-- Data written behind everything committed is what belongs there, and the write meets nothing
else of the lap from the play cursor on. -/
theorem Agrees.ring_write (agrees : p.Agrees v writePos) (read : p.seen = some p.played) {y : Nat}
    (committed : ∀ entry ∈ p.committed, entry.1 < y) {data : List UInt8}
    (room : p.played < y ∧ y + data.length ≤ p.played + v.size) {x : Nat} (ahead : p.played ≤ x)
    (within : x < p.played + v.size) :
    (v.write (y % v.size) data).bytes[x % v.size]?
      = some ({ p with committed := p.committed ++ numbered y data }.due v.silence x) := by
  have before := agrees.ring _ read x ahead within
  rw [due_append committed]
  split
  · next behind =>
    rw [RingView.getElem?_write agrees.sound data behind (by omega)]
    split
    · next covered => rw [List.getElem?_eq_getElem covered, Option.getD_some]
    · next beyond =>
      rw [before, due_of_le committed behind, List.getElem?_eq_none (by omega)]
      rfl
  · -- In front of the data: the write meets this offset only a lap later.
    have written := RingView.getElem?_write (x := x + v.size) agrees.sound data (y := y) (by omega)
      (by omega)
    rw [Nat.add_mod_right, if_neg (by omega)] at written
    exact written.trans before

/-- Data put behind everything committed, where the play cursor has still to come. -/
theorem Agrees.commit (agrees : p.Agrees v writePos) (read : p.seen = some p.played)
    {y offset : Nat} (there : y % v.size = offset) (le : p.played ≤ y)
    (lap : y ≤ p.played + v.size) (committed : ∀ entry ∈ p.committed, entry.1 < y)
    {data : List UInt8} (room : data.length ≤ distance offset (p.played % v.size) v.size) :
    { p with committed := p.committed ++ numbered (p.position offset v.size) data }.Agrees
      (v.write offset data)
      (if data = [] then writePos else some ((offset + min data.length v.size) % v.size)) := by
  subst there
  have sound := agrees.sound
  have pos := sound.pos
  by_cases empty : data = []
  · subst empty
    rw [numbered, List.append_nil, if_pos rfl, RingView.write, overlay_nil]
    exact agrees
  have length_pos := List.length_pos_iff.2 empty
  have room' := room_of_distance le lap length_pos room
  have position : p.position (y % v.size) v.size = y := by
    rw [Playback.position, distance_of_lt le (by omega)]
    omega
  rw [position, if_neg empty]
  refine ⟨sound.write _ _, agrees.behind, agrees.ahead, ?_, ?_, ?_, agrees.lap, agrees.lastPlay,
    ?_, ?_⟩
  · refine List.pairwise_append.2 ⟨agrees.sorted, pairwise_numbered _ _, ?_⟩
    intro before old after new
    exact Nat.lt_of_lt_of_le (committed before old) (le_of_mem_numbered new).1
  · intro x (before : x < p.played)
    rw [due_append committed, if_neg (by omega)]
    exact agrees.heard x before
  · intro unread
    cases read.symm.trans unread
  · intro seen last
    obtain rfl := Option.some.inj (read.symm.trans last)
    refine ⟨y + data.length, by omega, room'.2, ?_, fun entry mem => ?_⟩
    · rw [Nat.min_eq_left (by omega), Nat.mod_add_mod]
      rfl
    · rcases List.mem_append.1 mem with old | new
      · exact Nat.lt_add_right _ (committed entry old)
      · exact (le_of_mem_numbered new).2
  · intro seen last x (ahead : p.played ≤ x) (within : x < seen + v.size)
    obtain rfl := Option.some.inj (read.symm.trans last)
    exact agrees.ring_write read committed room' ahead within

/-! ### Passes -/

variable {t : PositionTracker}

/-- A pass that waits has looked. -/
theorem Agrees.waited (agrees : p.Agrees t.view t.writePos) {cursor : Cursor}
    (found : cursor = ⟨p.played % t.size, p.taken % t.size⟩) :
    (p.enter t.size (some cursor) none).Agrees (t.looked false cursor).view
      (t.looked false cursor).writePos := by
  subst found
  exact agrees.look rfl

/-- A pass that writes right behind the queued bytes has looked before. -/
theorem Agrees.followed (agrees : p.Agrees t.view t.writePos) {cursor : Cursor}
    (found : cursor = ⟨p.played % t.size, p.taken % t.size⟩) {place : Chunk}
    (following : place = Renderer.followingChunk t cursor) (data : List UInt8) :
    (p.enter t.size (some cursor) (some (place.target, data.take place.free))).Agrees
      ((t.looked false cursor).committed place.target (data.take place.free)).view
      ((t.looked false cursor).committed place.target (data.take place.free)).writePos := by
  subst found following
  obtain ⟨y, there, untaken, lap, committed, -⟩ := agrees.resync rfl
  exact (agrees.waited rfl).commit rfl there (Nat.le_trans agrees.behind untaken) lap committed
    (List.length_take_le ..)

end Playback

/-! ### Deliveries -/

/-- A stream without a clock, what was handed over to it, and what became of that. -/
structure Delivery where
  renderer : Renderer
  /-- What is left of the sample that a call is feeding. -/
  pending : Option Feed := none
  /-- The data of the samples handed over. -/
  offered : List UInt8 := []
  playback : Playback := {}

namespace Delivery

/-- A sample is handed over. -/
def hand (d : Delivery) (s : MediaSample) : Delivery :=
  let d' := { d with renderer := (d.renderer.screen s).2 }
  match (d.renderer.screen s).1 with
  | .ok (.feed left) => { d' with pending := some left, offered := d.offered ++ s.data }
  | _ => d'

/-- The call that feeds `left` makes a pass on a ring of `size`. -/
def pass (d : Delivery) (size : Nat) (left : Feed) (schedule : Schedule) : Delivery :=
  let op := Operation.feed left schedule
  { d with
    renderer := op.apply d.renderer
    pending := match (d.renderer.feedPass left schedule).1 with
      | .returned _ => none
      | .proceed left | .wait left => some left
    playback := d.playback.enter size (op.reading d.renderer) (op.commitment d.renderer) }

/-- The courses that an untimed stream can take from a silent ring on. The hardware plays only what
it has taken, and never has a lap taken, neither ahead of the play cursor nor ahead of where that
was when it was last read. -/
inductive Run : Delivery → Prop
  | silent {r : Renderer} {c : Connection} (untimed : r.Untimed c)
      (silent : c.tracker.view = c.tracker.view.clear) (unset : c.tracker.writePos = none) :
      Run { renderer := r }
  /-- The hardware takes bytes. -/
  | take {d : Delivery} {t : PositionTracker} {taken : Nat} (run : Run d)
      (connected : d.renderer.tracker = some t) (forward : d.playback.taken ≤ taken)
      (ahead : taken < d.playback.played + t.size)
      (lap : ∀ seen ∈ d.playback.seen, taken < seen + t.size) :
      Run { d with playback := { d.playback with taken } }
  /-- The hardware plays a byte. -/
  | play {d : Delivery} {t : PositionTracker} {byte : UInt8} (run : Run d)
      (connected : d.renderer.tracker = some t)
      (behind : d.playback.played < d.playback.taken)
      (under : t.ring.buffer.bytes[d.playback.played % t.size]? = some byte) :
      Run { d with playback := { d.playback with heard := d.playback.heard ++ [byte] } }
  /-- A sample is handed over; the one before it was fed. -/
  | hand {d : Delivery} (run : Run d) (idle : d.pending = none) (s : MediaSample) :
      Run (d.hand s)
  /-- A call makes a pass; it finds the cursors where the hardware is. -/
  | pass {d : Delivery} {t : PositionTracker} {left : Feed} {acts : List Disturbance} (run : Run d)
      (connected : d.renderer.tracker = some t) (pending : d.pending = some left)
      (moves : acts.all Disturbance.moves = true)
      (found : ∀ cursor ∈ (Operation.feed left [acts]).reading d.renderer,
        cursor = ⟨d.playback.played % t.size, d.playback.taken % t.size⟩) :
      Run (d.pass t.size left [acts])

variable {d : Delivery}

/-- A stream whose playback agrees with the ring, and whose bytes are committed or pending. -/
structure Sound (d : Delivery) (c : Connection) : Prop where
  untimed : d.renderer.Untimed c
  agrees : d.playback.Agrees c.tracker.view c.tracker.writePos
  conserved : d.playback.committed.map (·.2) ++ (d.pending.map (·.data)).getD [] = d.offered

theorem Sound.hand {c : Connection} (sound : d.Sound c) (idle : d.pending = none)
    (s : MediaSample) :
    ∃ c', (d.hand s).Sound c' := by
  obtain ⟨c', u, view, writePos⟩ := sound.untimed.screen s
  have agrees : d.playback.Agrees c'.tracker.view c'.tracker.writePos := by
    rw [view, writePos]
    exact sound.agrees
  have conserved := sound.conserved
  refine ⟨c', ?_⟩
  unfold Delivery.hand
  dsimp only
  split
  · next left screened =>
    refine ⟨u, agrees, ?_⟩
    rw [idle] at conserved
    rw [← conserved, ← Renderer.data_of_screen screened]
    simp
  · exact ⟨u, agrees, conserved⟩

/-- A pass of a call that has nothing left to feed. -/
theorem Sound.pass_nil {c : Connection} (sound : d.Sound c) {left : Feed}
    (pending : d.pending = some left) (spent : left.data = []) (size : Nat)
    (schedule : Schedule) :
    (d.pass size left schedule).Sound c := by
  have passed : d.renderer.feedPass left schedule = (.returned (.ok ()), d.renderer, schedule) := by
    unfold Renderer.feedPass
    dsimp only
    rw [if_pos (.inl (by simp [spent]))]
  have entered : (d.pass size left schedule).playback = d.playback := by
    have idle : left.data.isEmpty ∨ d.renderer.state ≠ .running := .inl (by simp [spent])
    rw [Delivery.pass, Operation.reading_feed_of_idle idle, Operation.commitment_feed_of_idle idle]
    rfl
  refine ⟨?_, by rw [entered]; exact sound.agrees, ?_⟩
  · show ((Operation.feed left schedule).apply d.renderer).Untimed c
    rw [Operation.apply, passed]
    exact sound.untimed
  · have conserved := sound.conserved
    rw [pending, Option.map_some, Option.getD_some, spent] at conserved
    rw [entered, Delivery.pass, passed]
    exact conserved

theorem Sound.pass {c : Connection} (sound : d.Sound c) {left : Feed} {acts : List Disturbance}
    (pending : d.pending = some left) (moves : acts.all Disturbance.moves = true)
    (found : ∀ cursor ∈ (Operation.feed left [acts]).reading d.renderer,
      cursor = ⟨d.playback.played % c.tracker.size, d.playback.taken % c.tracker.size⟩) :
    ∃ c', (d.pass c.tracker.size left [acts]).Sound c' := by
  by_cases spent : left.data = []
  · exact ⟨c, sound.pass_nil pending spent _ _⟩
  obtain ⟨c', at', view, writePos⟩ := sound.untimed.atReading moves
  have size : c'.tracker.size = c.tracker.size := congrArg RingView.size view
  have reading : (Operation.feed left [acts]).reading d.renderer
      = some c'.tracker.ring.buffer.position := by
    rw [Operation.reading_feed (by simp [spent, sound.untimed.running]),
      Renderer.planAnswer_of_timing (Renderer.timing_of_clockless sound.untimed.clockless _),
      Renderer.answer, Renderer.tracker_of_connection at'.connected, Option.bind_some,
      at'.answer_eq]
  have cursor := found _ reading
  have conserved := sound.conserved
  rw [pending, Option.map_some, Option.getD_some] at conserved
  have agrees : d.playback.Agrees c'.tracker.view c'.tracker.writePos := by
    rw [view, writePos]
    exact sound.agrees
  obtain ⟨outcome, r', passed, waited | ⟨place, following, proceeded⟩⟩ :=
    sound.untimed.feedPass at' spent []
  · obtain ⟨rfl, uncommitted, u⟩ := waited
    have after : d.pass c.tracker.size left [acts]
        = { d with
            renderer := r'
            pending := some left
            playback := d.playback.enter c'.tracker.size
              (some c'.tracker.ring.buffer.position) none } := by
      unfold Delivery.pass
      dsimp only
      rw [Operation.apply, passed, reading, uncommitted, size]
    rw [after]
    exact ⟨_, u, agrees.waited (size ▸ cursor), conserved⟩
  · obtain ⟨rfl, committed, u⟩ := proceeded
    have after : d.pass c.tracker.size left [acts]
        = { d with
            renderer := r'
            pending := some { data := left.data.drop place.free, writeAt := none }
            playback := d.playback.enter c'.tracker.size
              (some c'.tracker.ring.buffer.position)
              (some (place.target, left.data.take place.free)) } := by
      unfold Delivery.pass
      dsimp only
      rw [Operation.apply, passed, reading, committed, size]
    rw [after]
    refine ⟨_, u, agrees.followed (size ▸ cursor) following left.data, ?_⟩
    rw [Playback.enter, List.map_append, map_snd_numbered, Option.map_some, Option.getD_some,
      List.append_assoc, List.take_append_drop]
    exact conserved

theorem Run.sound (run : d.Run) : ∃ c, d.Sound c := by
  have tracked {d : Delivery} {c : Connection} {t : PositionTracker} (sound : d.Sound c)
      (connected : d.renderer.tracker = some t) : c.tracker = t :=
    Option.some.inj ((Renderer.tracker_of_connection sound.untimed.connected).symm.trans connected)
  induction run with
  | @silent r c untimed silent unset =>
    refine ⟨c, untimed, ?_, rfl⟩
    rw [unset]
    exact Playback.agrees_silent untimed.sound silent
  | take run connected forward ahead lap ih =>
    obtain ⟨c, sound⟩ := ih
    obtain rfl := tracked sound connected
    exact ⟨c, sound.untimed, sound.agrees.take forward ahead lap, sound.conserved⟩
  | play run connected behind under ih =>
    obtain ⟨c, sound⟩ := ih
    obtain rfl := tracked sound connected
    exact ⟨c, sound.untimed, sound.agrees.play behind under, sound.conserved⟩
  | hand run idle s ih =>
    obtain ⟨c, sound⟩ := ih
    exact sound.hand idle s
  | pass run connected pending moves found ih =>
    obtain ⟨c, sound⟩ := ih
    obtain rfl := tracked sound connected
    exact sound.pass pending moves found

/-- A format is connected on hardware that answers, and the stream starts without a clock. -/
theorem run_of_start {r r₁ r₂ : Renderer} {format : WaveFormat} {origin : Ticks}
    (unarmed : r.device.armed = {}) (unflushed : r.flushing = false)
    (clockless : r.clockTime = none) (connected : r.connect format = (.ok (), r₁))
    (started : r₁.start origin = (.ok (), r₂)) :
    Run { renderer := r₂ } := by
  obtain ⟨c, connection, valid, stopped, ⟨flushing, clockTime⟩, sound, answering, silent, unset⟩ :=
    Renderer.fresh_of_connect unarmed connected
  obtain ⟨c', u, view, writePos⟩ := Renderer.continues_of_start connection valid
    (flushing.trans unflushed) (clockTime.trans clockless) sound answering stopped started
  refine .silent u ?_ (writePos.trans unset)
  rw [view]
  exact silent

/-- A call that has waited goes on. -/
theorem Run.resume_eq (run : d.Run) (left : Feed) (schedule : Schedule) :
    d.renderer.resume (.receive left) schedule = d.renderer.feedTurn left schedule := by
  obtain ⟨c, sound⟩ := run.sound
  have u := sound.untimed
  unfold Renderer.resume Renderer.feedWake
  dsimp only
  rw [if_neg (by simp [u.taking.2, u.running])]

/-! ### Nothing is lost -/

theorem delivered_isPrefix {c : Connection} (sound : d.Sound c) :
    d.playback.delivered <+: d.offered := by
  have agrees := sound.agrees
  have read : d.playback.delivered
      = (List.range d.playback.played).filterMap fun x => d.playback.committed.lookup x := by
    refine List.filterMap_congr fun x mem => ?_
    have heard := agrees.heard x (List.mem_range.1 mem)
    rw [heard, Playback.due]
    cases d.playback.committed.lookup x <;> rfl
  rw [read]
  exact (filterMap_lookup_isPrefix agrees.sorted _).trans
    ⟨_, sound.conserved⟩

/-- Along every course of an untimed stream: what is committed stays on the ring until it is heard;
what is heard at committed positions, in order, is a beginning of the data handed over; and
everything else that is heard is silence. -/
theorem Run.lossless (run : d.Run) :
    ∃ t, d.renderer.tracker = some t
      ∧ (∀ x byte, d.playback.committed.lookup x = some byte → d.playback.played ≤ x →
        t.ring.buffer.bytes[x % t.size]? = some byte)
      ∧ d.playback.delivered <+: d.offered
      ∧ (∀ x byte, d.playback.heard[x]? = some byte → d.playback.committed.lookup x = none →
        byte = t.ring.silence)
      ∧ d.playback.committed.Pairwise (·.1 < ·.1) := by
  obtain ⟨c, sound⟩ := run.sound
  have agrees := sound.agrees
  refine ⟨c.tracker, Renderer.tracker_of_connection sound.untimed.connected, ?_,
    delivered_isPrefix sound, ?_, agrees.sorted⟩
  · -- Everything committed lies less than a lap after the last reading.
    intro x byte committed ahead
    cases last : d.playback.seen with
    | none =>
      rw [(agrees.unread last).1] at committed
      cases committed
    | some seen =>
      obtain ⟨entry, mem, at'⟩ := List.lookup_isSome_iff.1 (Option.isSome_of_eq_some committed)
      have lt := agrees.committed_lt last entry mem
      rw [← eq_of_beq at'] at lt
      have here := agrees.ring seen last x ahead lt
      rwa [Playback.due, committed, Option.getD_some] at here
  · intro x byte heard uncommitted
    have lt : x < d.playback.played := (List.getElem?_eq_some_iff.1 heard).1
    have due := (agrees.heard x lt).symm.trans heard
    rw [Playback.due, uncommitted] at due
    exact (Option.some.inj due).symm

/-- Three bytes are handed over, written behind the hardware, and the first of them is heard. -/
theorem lossless_of_three_bytes :
    ∃ d, Run d ∧ d.offered = [1, 2, 3] ∧ d.playback.heard = [0x80, 0x80, 0x80, 1]
      ∧ d.playback.delivered = [1] ∧ d.playback.delivered <+: d.offered := by
  have connected : Renderer.unconnected.connect (.pcm 1000 1 8) = (.ok (), _) := rfl
  have silent : Run { renderer := Renderer.tenBytes } :=
    run_of_start rfl rfl rfl connected (show Renderer.start _ 0 = _ from rfl)
  have taken : Run { renderer := Renderer.tenBytes, playback := { taken := 3 } } :=
    silent.take rfl (by decide) (by decide) nofun
  have handed : Run (Delivery.hand _ { data := [1, 2, 3] }) := taken.hand rfl _
  have written : Run (Delivery.pass _ 10 ⟨[1, 2, 3], none⟩ [[.setCursor 0 3]]) :=
    handed.pass rfl rfl rfl (by rintro _ ⟨⟩; rfl)
  have first := written.play rfl (by decide) rfl
  have second := first.play rfl (by decide) rfl
  have third := second.play rfl (by decide) rfl
  have further := third.take rfl (show _ ≤ 5 by decide) (by decide) (by rintro _ ⟨⟩; decide)
  have fourth := further.play rfl (by decide) rfl
  obtain ⟨t, -, -, order, -⟩ := fourth.lossless
  exact ⟨_, fourth, rfl, rfl, rfl, order⟩

end Delivery

end Playout
