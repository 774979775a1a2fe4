import Playout.Proofs.Session.Territory

/-!
# Looks that fail

A look at the hardware fails if the cursors cannot be read, or if what was played since the last
look cannot be silenced. Neither touches the write position or a byte of the ring. After the first
kind it is as if nobody had looked. After the second it is not: the play position has moved on to
the cursor that was read, and the next look goes on from there
(`PositionTracker.refresh_after_failure`).

So what was played until then is not silenced any more, and comes round again a lap later. And if
all that was queued was played by then, the write position appears nearly a lap ahead: the next look
takes the ring for full where it has run dry (`PositionTracker.softwareLead_of_seen`).

## Design points

* **Compared is one tracker with itself,** on the buffer that the next look finds. `onto` puts it
  there, with the play position from before the failure and with the one from after it.
-/

namespace Playout

/-- Silencing fails only where there is something to silence, and leaves every byte. -/
theorem RingBuffer.fillSilence_refused {r r' : RingBuffer} {offset len : Nat} {e : TransportError}
    (refused : r.fillSilence offset len = (.error e, r')) :
    len ≠ 0 ∧ (∃ start count, e = .lockFailed start count)
      ∧ ∃ armed, r' = { r with buffer := { r.buffer with armed } } := by
  rw [RingBuffer.fillSilence] at refused
  by_cases empty : (split offset len r.size).isEmpty = true
  · simp [empty] at refused
  simp only [empty, Bool.false_eq_true, if_false] at refused
  have nonzero : len ≠ 0 := by
    intro zero
    simp [zero, Segments.isEmpty, length_split] at empty
  rw [SoundBuffer.lock] at refused
  split at refused
  · next locked =>
    split at locked
    · cases locked
      cases refused
      exact ⟨nonzero, ⟨_, _, rfl⟩, _, rfl⟩
    · cases locked
  · cases refused

/-- Seen from two offsets, a third one is not equally far. -/
theorem distance_left_injective {size source source' target : Nat} (hs : source < size)
    (hs' : source' < size) (ht : target < size)
    (same : distance source target size = distance source' target size) :
    source = source' := by
  rw [distance_eq_ite hs ht, distance_eq_ite hs' ht] at same
  split at same <;> split at same <;> omega

namespace PositionTracker

variable {t t' : PositionTracker}

/-- The tracker once its buffer has become `b`. -/
def onto (t : PositionTracker) (b : SoundBuffer) : PositionTracker :=
  { t with ring := { t.ring with buffer := b } }

/-- The tracker with `play` for the play position that it has seen. -/
def seeing (t : PositionTracker) (play : Nat) : PositionTracker := { t with lastPlay := play }

@[simp] theorem ring_seeing (t : PositionTracker) (play : Nat) :
    (t.seeing play).ring = t.ring := rfl

@[simp] theorem size_seeing (t : PositionTracker) (play : Nat) :
    (t.seeing play).size = t.size := rfl

@[simp] theorem lastPlay_seeing (t : PositionTracker) (play : Nat) :
    (t.seeing play).lastPlay = play := rfl

/-! ### What a failure leaves -/

/-- A look fails in one of two ways. -/
theorem Seated.refresh_failed (seated : t.Seated) {draining : Bool} {e : Failure}
    (failed : t.refresh draining = (.error e, t')) :
    e = .transport .cursorFailed ∧ t' = t.disarmed
      ∨ (∃ start count, e = .transport (.lockFailed start count))
        ∧ distance t.lastPlay t.ring.buffer.position.play t.size ≠ 0
        ∧ ∃ armed, t' = (t.onto { t.ring.buffer with armed }).seeing
          t.ring.buffer.position.play := by
  by_cases armed : t.ring.buffer.armed.cursor = true
  · rw [refresh_of_armed draining armed] at failed
    cases failed
    exact .inl ⟨rfl, rfl⟩
  · rw [refresh_of_answering draining seated.pos (by simpa using armed)] at failed
    split at failed
    · next refused =>
      cases failed
      obtain ⟨played, ⟨start, count, rfl⟩, armed, rfl⟩ := RingBuffer.fillSilence_refused refused
      exact .inr ⟨⟨start, count, rfl⟩, played, armed, rfl⟩
    · cases failed

/-! ### Going on from a later play position -/

/-- Whether what is queued reaches beyond `play`. Where nothing is queued, nothing falls short. -/
def QueuedBeyond (t : PositionTracker) (play : Nat) : Prop :=
  ∀ write ∈ t.writePos, distance t.lastPlay play t.size < softwareLead t.lastPlay write t.size

/-- Seen from a later play position, a write position beyond it is nearer by the way there. One that
falls short of it, or is on it, appears a lap further. -/
theorem softwareLead_of_seen {lastPlay play write size : Nat} (last_lt : lastPlay < size)
    (play_lt : play < size) (write_lt : write < size) :
    softwareLead play write size
      = if distance lastPlay play size < softwareLead lastPlay write size then
          softwareLead lastPlay write size - distance lastPlay play size
        else size + softwareLead lastPlay write size - distance lastPlay play size := by
  simp only [softwareLead, distance_eq_ite last_lt play_lt, distance_eq_ite last_lt write_lt,
    distance_eq_ite play_lt write_lt]
  grind

/-- While the hardware does not lap the play position that was seen, a look from there finds what
one from before it finds, if what is queued reaches beyond it. Otherwise it takes the write position
for good. -/
theorem resync_of_seen (draining : Bool) {lastPlay play write minimum size : Nat}
    (last_lt : lastPlay < size) (play_lt : play < size) (write_lt : write < size)
    (minimum_lt : minimum < size)
    (unlapped : distance lastPlay play size ≤ distance lastPlay minimum size) :
    resync draining play (some write) minimum size
      = if distance lastPlay play size < softwareLead lastPlay write size then
          resync draining lastPlay (some write) minimum size
        else (write, false, some write) := by
  have hardware := distance_sub_distance last_lt play_lt minimum_lt unlapped
  have software := softwareLead_of_seen last_lt play_lt write_lt
  have lap := distance_lt (Nat.zero_lt_of_lt last_lt) lastPlay minimum
  simp only [resync]
  rw [software, hardware]
  split
  · next beyond =>
    congr 1
    · simp only [eq_iff_iff, and_congr_right_iff]
      omega
    · congr 1
      simp only [eq_iff_iff]
      omega
  · next short =>
    rw [if_neg (by omega), if_neg (by omega)]

/-- How a look that finds `positions` and leaves `t'` falls short of one of `t` that reads
`cursor`, since it begins at `play` and not at the play position of `t`. -/
structure Overlooks (t : PositionTracker) (play : Nat) (draining : Bool) (cursor : Cursor)
    (positions : Positions) (t' : PositionTracker) : Prop where
  minimum_eq : positions.minimum = (t.found draining cursor).minimum
  zeroed_ne : positions.zeroed ≠ (t.found draining cursor).zeroed
  /-- What was played up to `play` is not silenced, unless the play cursor has lapped it. -/
  unsilenced : distance t.lastPlay play t.size ≤ distance t.lastPlay cursor.play t.size →
    (t.found draining cursor).zeroed = distance t.lastPlay play t.size + positions.zeroed
      ∧ ∀ i < t.size, distance t.lastPlay i t.size < distance t.lastPlay play t.size →
        t'.ring.buffer.bytes[i]? = t.ring.buffer.bytes[i]?
          ∧ (t.looked draining cursor).ring.buffer.bytes[i]? = some t.ring.silence
  /-- An underrun is missed where nothing that is queued reaches beyond `play`. -/
  underrun_iff : distance t.lastPlay play t.size ≤ distance t.lastPlay cursor.write t.size →
    (positions.underrun = true
      ↔ (t.found draining cursor).underrun = true ∧ t.QueuedBeyond play)
  sequential_eq : distance t.lastPlay play t.size ≤ distance t.lastPlay cursor.write t.size →
    t.QueuedBeyond play → positions.sequential = (t.found draining cursor).sequential

section

variable {play : Nat} {cursor : Cursor}

/-- While the hardware does not lap `play`, a look from there comes to the same verdict on what is
queued if that reaches beyond `play`, and otherwise to none. -/
theorem Seated.resync_seeing (seated : t.Seated) (draining : Bool) (play_lt : play < t.size)
    (write_lt : cursor.write < t.size)
    (unlapped : distance t.lastPlay play t.size ≤ distance t.lastPlay cursor.write t.size) :
    t.QueuedBeyond play ∧ resync draining play t.writePos cursor.write t.size
        = resync draining t.lastPlay t.writePos cursor.write t.size
      ∨ ¬t.QueuedBeyond play
        ∧ (resync draining play t.writePos cursor.write t.size).2.1 = false := by
  cases queued : t.writePos with
  | none => exact .inl ⟨by simp [QueuedBeyond, queued], rfl⟩
  | some write =>
    have beyond_iff : t.QueuedBeyond play
        ↔ distance t.lastPlay play t.size < softwareLead t.lastPlay write t.size := by
      simp [QueuedBeyond, queued]
    rw [beyond_iff, resync_of_seen draining seated.lastPlay_lt play_lt
      (seated.writePos_lt write queued) write_lt unlapped]
    by_cases beyond : distance t.lastPlay play t.size < softwareLead t.lastPlay write t.size
    · exact .inl ⟨beyond, if_pos beyond⟩
    · exact .inr ⟨beyond, by rw [if_neg beyond]⟩

/-- While the play cursor does not lap `play`, a look from there leaves the bytes before it. One
from before them silences them. -/
theorem Seated.getElem?_looked_seeing (seated : t.Seated) (draining : Bool)
    (play_lt : play < t.size) (cursor_lt : cursor.play < t.size)
    (unlapped : distance t.lastPlay play t.size ≤ distance t.lastPlay cursor.play t.size) {i : Nat}
    (lt : i < t.size) (before : distance t.lastPlay i t.size < distance t.lastPlay play t.size) :
    ((t.seeing play).looked draining cursor).ring.buffer.bytes[i]? = t.ring.buffer.bytes[i]?
      ∧ (t.looked draining cursor).ring.buffer.bytes[i]? = some t.ring.silence := by
  have last_lt := seated.lastPlay_lt
  have length_eq : t.ring.buffer.bytes.length = t.size := seated.spans.size_eq
  have inside : i < t.ring.buffer.bytes.length := length_eq.symm ▸ lt
  have played : distance t.lastPlay i t.size < distance t.lastPlay cursor.play t.size :=
    Nat.lt_of_lt_of_le before unlapped
  -- Seen from `play`, byte `i` lies further on than the cursor that is read.
  have beyond : ¬distance play i t.size < distance play cursor.play t.size := by
    have later := distance_sub_distance last_lt play_lt cursor_lt unlapped
    rw [later]
    rw [distance_eq_ite last_lt lt] at before
    rw [distance_eq_ite last_lt cursor_lt] at unlapped ⊢
    rw [distance_eq_ite last_lt play_lt] at before unlapped ⊢
    rw [distance_eq_ite play_lt lt]
    grind
  constructor
  · simp only [looked, RingBuffer.withBytes, ring_seeing, lastPlay_seeing, size_seeing]
    rw [getElem?_overlay inside, length_eq, Nat.mod_eq_of_lt play_lt, List.length_replicate]
    exact if_neg beyond
  · simp only [looked, RingBuffer.withBytes]
    rw [getElem?_overlay inside, length_eq, Nat.mod_eq_of_lt last_lt, List.length_replicate,
      if_pos played, List.getElem?_replicate_of_lt played]

/-- A look that begins at another play position than it should. -/
theorem Seated.overlooks (seated : t.Seated) (draining : Bool) (play_lt : play < t.size)
    (ne : play ≠ t.lastPlay) (read : cursor.play < t.size ∧ cursor.write < t.size) :
    t.Overlooks play draining cursor ((t.seeing play).found draining cursor)
      ((t.seeing play).looked draining cursor) where
  minimum_eq := rfl
  zeroed_ne := by
    intro same
    exact ne (distance_left_injective play_lt seated.lastPlay_lt read.1 same)
  unsilenced := by
    intro unlapped
    refine ⟨?_, fun i => seated.getElem?_looked_seeing draining play_lt read.1 unlapped⟩
    have later := distance_sub_distance seated.lastPlay_lt play_lt read.1 unlapped
    simp only [found, lastPlay_seeing, size_seeing]
    omega
  underrun_iff := by
    intro unlapped
    rcases seated.resync_seeing draining play_lt read.2 unlapped with
      ⟨beyond, same⟩ | ⟨short, unnoticed⟩
    · simp only [found, beyond, and_true]
      exact iff_of_eq (congrArg (·.2.1 = true) same)
    · simp only [found, short, and_false, iff_false, Bool.not_eq_true]
      exact unnoticed
  sequential_eq := by
    intro unlapped beyond
    rcases seated.resync_seeing draining play_lt read.2 unlapped with ⟨-, same⟩ | ⟨short, -⟩
    · exact congrArg (·.1) same
    · exact absurd beyond short

end

/-! ### The look after a failure -/

/-- A look that fails leaves the write position and every byte. If the cursors could not be read,
every later look, whatever buffer it finds, is the one that it would have been without the failure.
If the ring could not be silenced, no later look is: it begins at the play cursor that was read at
the failure. -/
theorem Seated.refresh_after_failure (seated : t.Seated) {draining : Bool} {e : Failure}
    (failed : t.refresh draining = (.error e, t')) :
    t'.writePos = t.writePos ∧ t'.ring.buffer.bytes = t.ring.buffer.bytes
      ∧ (e = .transport .cursorFailed ∧ t'.lastPlay = t.lastPlay
          ∧ (∀ b later, (t'.onto b).refresh later = (t.onto b).refresh later)
        ∨ (∃ start count, e = .transport (.lockFailed start count))
          ∧ t'.lastPlay = t.ring.buffer.position.play ∧ t'.lastPlay ≠ t.lastPlay
          ∧ ∀ b later cursor, b.Spans t.size → b.armed.lock = false →
            (t.onto b).answer = some cursor →
            ∃ positions after, (t'.onto b).refresh later = (.ok positions, after)
              ∧ (t.onto b).Overlooks t'.lastPlay later cursor positions after) := by
  rcases seated.refresh_failed failed with ⟨rfl, rfl⟩ | ⟨refused, played, armed, rfl⟩
  · exact ⟨rfl, rfl, .inl ⟨rfl, rfl, fun b later => rfl⟩⟩
  have ne : t.ring.buffer.position.play ≠ t.lastPlay := by
    intro same
    exact played (same ▸ distance_self _)
  refine ⟨rfl, rfl, .inr ⟨refused, rfl, ne, ?_⟩⟩
  intro b later cursor spans granting answered
  have read : cursor.play < t.size ∧ cursor.write < t.size := by
    rw [answer] at answered
    split at answered
    · cases answered
    · cases answered
      exact spans.position
  have moved : (t.onto b).Seated := ⟨spans, seated.lastPlay_lt, seated.writePos_lt⟩
  have sound : ((t.onto b).seeing t.ring.buffer.position.play).view.Sound :=
    ⟨seated.pos, spans.size_eq, granting⟩
  exact ⟨_, _, refresh_of_answer later sound answered,
    moved.overlooks later seated.spans.position.1 ne read⟩

/-! ### A ring of ten bytes -/

/-- Three bytes are queued at the beginning of a silent ring of ten, and none was played when the
hardware was looked at last. It stands at `play` now, and `write` is next. -/
def threeQueued (play write : Nat) (refusing : Bool) : PositionTracker where
  ring :=
    { buffer :=
        { config := { mode := .manual }, bytes := [1, 2, 3] ++ List.replicate 7 0x80
          blockAlign := 1, playAt := play, writeAt := write, frequency := 1000
          armed := { lock := refusing } }
      size := 10
      silence := 0x80 }
  writePos := some 3

theorem seated_threeQueued {play write : Nat} (play_lt : play < 10) (write_lt : write < 10)
    (refusing : Bool) :
    (threeQueued play write refusing).Seated := by
  refine ⟨⟨rfl, play_lt, write_lt⟩, show 0 < 10 by decide, ?_⟩
  rintro _ ⟨⟩
  show 3 < 10
  decide

/-- The first two of the bytes are played, but cannot be silenced. When the hardware is at the fifth
byte the next look silences two bytes only; it does report the underrun. -/
theorem refresh_after_refusal_of_two_bytes :
    ∃ e t', (threeQueued 2 2 true).refresh false = (.error e, t')
      ∧ ∃ positions after, (t'.onto (threeQueued 4 5 false).ring.buffer).refresh false
          = (.ok positions, after)
        ∧ (threeQueued 4 5 false).Overlooks 2 false ⟨4, 5⟩ positions after
        ∧ ((threeQueued 4 5 false).found false ⟨4, 5⟩).underrun = true
        ∧ positions.underrun = true := by
  have failed : (threeQueued 2 2 true).refresh false
      = (.error (.transport (.lockFailed 0 2)),
        (threeQueued 2 2 false).seeing 2) := by rfl
  refine ⟨_, _, failed, ?_⟩
  obtain ⟨-, -, ⟨unread, -⟩ | ⟨-, -, -, looks⟩⟩ :=
    (seated_threeQueued (by decide) (by decide) true).refresh_after_failure failed
  · cases unread
  obtain ⟨positions, after, looked, overlooks⟩ :=
    looks (threeQueued 4 5 false).ring.buffer false ⟨4, 5⟩
      (seated_threeQueued (by decide) (by decide) false).spans rfl rfl
  have underrun : ((threeQueued 4 5 false).found false ⟨4, 5⟩).underrun = true := by decide
  refine ⟨positions, after, looked, overlooks, underrun, ?_⟩
  refine (overlooks.underrun_iff (by decide)).2 ⟨underrun, ?_⟩
  rintro _ ⟨⟩
  decide

/-- All three bytes are played, and two of silence, when the ring cannot be silenced. The play
position moves on, and the next look finds nothing wrong: the bytes stay where they are, and the
write position is taken for one that is nearly a lap ahead. Without the failure the same look
silences the five bytes and reports the underrun. -/
theorem misses_underrun_after_refusal :
    ∃ t', (threeQueued 5 6 true).update = (.error (.transport (.lockFailed 0 5)), t')
      ∧ (threeQueued 5 6 true).lastPlay = 0 ∧ t'.lastPlay = 5
      ∧ (∃ after, t'.update = (.ok ⟨3, 6, false, 0⟩, after)
        ∧ after.ring.buffer.bytes = [1, 2, 3] ++ List.replicate 7 0x80)
      ∧ ∃ after, (threeQueued 5 6 false).update = (.ok ⟨6, 6, true, 5⟩, after)
        ∧ after.ring.buffer.bytes = List.replicate 10 0x80 :=
  ⟨_, rfl, rfl, rfl, ⟨_, rfl, rfl⟩, _, rfl, rfl⟩

end PositionTracker

end Playout
