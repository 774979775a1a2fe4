import Playout.Tracker
import Playout.Proofs.Ring.Overlay

/-!
# What a tracker does to its ring

A tracker is `Sound` when its hardware holds the ring and grants the next lock. The two things that
it then does are put as equations: a look that is answered silences what was played since the last
one (`refresh_eq`), and a commit puts bytes on the ring (`commit_eq`).

`RingView` is what matters of a tracker for the bytes that will be heard. It leaves out the write
position, the levels, and how the cursors move.
-/

namespace Playout

/-- A ring as far as its bytes are concerned. -/
structure RingView where
  size : Nat
  silence : UInt8
  bytes : List UInt8
  /-- The play cursor when it was last read. -/
  lastPlay : Nat
  /-- Whether the next lock is bound to fail. -/
  refusing : Bool
  deriving DecidableEq, Repr

namespace RingView

/-- A ring that the hardware holds, and to which it grants the next lock. -/
structure Sound (v : RingView) : Prop where
  pos : 0 < v.size
  length_eq : v.bytes.length = v.size
  granting : v.refusing = false

/-- After a look that found the play cursor at `play`. -/
def look (v : RingView) (play : Nat) : RingView :=
  { v with
    bytes := overlay v.bytes v.lastPlay
      (List.replicate (distance v.lastPlay play v.size) v.silence)
    lastPlay := play }

/-- After a look with this answer, if there was any. -/
def read (v : RingView) (answer : Option Cursor) : RingView :=
  match answer with
  | none => v
  | some cursor => v.look cursor.play

/-- After `data` was put at `offset`. -/
def write (v : RingView) (offset : Nat) (data : List UInt8) : RingView :=
  { v with bytes := overlay v.bytes offset data }

/-- After a commitment of data to an offset, if there was any. -/
def put (v : RingView) (commitment : Option (Nat × List UInt8)) : RingView :=
  match commitment with
  | none => v
  | some (offset, data) => v.write offset data

/-- After the whole ring was silenced. -/
def clear (v : RingView) : RingView := { v with bytes := List.replicate v.size v.silence }

variable {v : RingView}

theorem eq_clear (silent : v.bytes = List.replicate v.size v.silence) : v = v.clear := by
  rw [clear, ← silent]

theorem Sound.look (sound : v.Sound) (play : Nat) : (v.look play).Sound where
  pos := sound.pos
  length_eq := (length_overlay _ _ _).trans sound.length_eq
  granting := sound.granting

theorem Sound.read (sound : v.Sound) (answer : Option Cursor) : (v.read answer).Sound :=
  match answer with
  | none => sound
  | some cursor => sound.look cursor.play

theorem Sound.write (sound : v.Sound) (offset : Nat) (data : List UInt8) :
    (v.write offset data).Sound where
  pos := sound.pos
  length_eq := (length_overlay _ _ _).trans sound.length_eq
  granting := sound.granting

theorem Sound.put (sound : v.Sound) (commitment : Option (Nat × List UInt8)) :
    (v.put commitment).Sound :=
  match commitment with
  | none => sound
  | some (offset, data) => sound.write offset data

/-! ### Byte by byte -/

/-- A look leaves silence where there was silence. -/
theorem getElem?_look_of_silent (sound : v.Sound) {i : Nat} (lt : i < v.size)
    (silent : v.bytes[i]? = some v.silence) (play : Nat) :
    (v.look play).bytes[i]? = some v.silence := by
  rw [look, getElem?_overlay (sound.length_eq ▸ lt)]
  split
  · next covered => exact List.getElem?_replicate_of_lt (by simpa using covered)
  · exact silent

/-- A look that finds the play cursor at position `p`, after one at `q`, silences the lap after
that one as far as it was played, and leaves the rest alone. -/
theorem getElem?_look (sound : v.Sound) {q p x : Nat} (last : v.lastPlay = q % v.size)
    (since : q ≤ p) (lap : p < q + v.size) (le : p ≤ x) (lt : x < p + v.size) :
    (v.look (p % v.size)).bytes[x % v.size]?
      = if x < q + v.size then v.bytes[x % v.size]? else some v.silence := by
  have inside : x % v.size < v.bytes.length := by
    rw [sound.length_eq]
    exact Nat.mod_lt x sound.pos
  rw [look, getElem?_overlay inside, sound.length_eq, last, Nat.mod_mod, List.length_replicate,
    distance_of_lt since lap]
  rcases Nat.lt_or_ge x (q + v.size) with within | beyond
  · rw [distance_of_lt (by omega) within, if_neg (by omega), if_pos within]
  · have around : x % v.size = (x - v.size) % v.size := by
      rw [← Nat.sub_add_cancel (show v.size ≤ x by omega), Nat.add_mod_right, Nat.add_sub_cancel]
    have played : x - v.size - q < p - q := by omega
    rw [around, distance_of_lt (by omega) (by omega), if_pos played,
      List.getElem?_replicate_of_lt played, if_neg (Nat.not_lt.2 beyond)]

/-- Writing at position `y` replaces the bytes from there on. -/
theorem getElem?_write (sound : v.Sound) {y x : Nat} (data : List UInt8) (le : y ≤ x)
    (lt : x < y + v.size) :
    (v.write (y % v.size) data).bytes[x % v.size]?
      = if x - y < data.length then data[x - y]? else v.bytes[x % v.size]? := by
  have written := getElem?_overlay_mod data le (sound.length_eq.symm ▸ lt)
  rwa [sound.length_eq] at written

theorem Sound.clear (sound : v.Sound) : v.clear.Sound where
  pos := sound.pos
  length_eq := List.length_replicate
  granting := sound.granting

end RingView

namespace PositionTracker

variable {t : PositionTracker}

def view (t : PositionTracker) : RingView where
  size := t.ring.size
  silence := t.ring.silence
  bytes := t.ring.buffer.bytes
  lastPlay := t.lastPlay
  refusing := t.ring.buffer.armed.lock

/-! ### Looking -/

/-- What a look finds that reads a cursor. -/
def found (t : PositionTracker) (draining : Bool) (cursor : Cursor) : Positions where
  sequential := (resync draining t.lastPlay t.writePos cursor.write t.size).1
  minimum := cursor.write
  underrun := (resync draining t.lastPlay t.writePos cursor.write t.size).2.1
  zeroed := distance t.lastPlay cursor.play t.size

/-- What a look leaves that reads a cursor. -/
def looked (t : PositionTracker) (draining : Bool) (cursor : Cursor) : PositionTracker where
  ring := t.ring.withBytes (overlay t.ring.buffer.bytes t.lastPlay
    (List.replicate (distance t.lastPlay cursor.play t.size) t.ring.silence))
  lastPlay := cursor.play
  writePos := (resync draining t.lastPlay t.writePos cursor.write t.size).2.2

@[simp] theorem view_looked (t : PositionTracker) (draining : Bool) (cursor : Cursor) :
    (t.looked draining cursor).view = t.view.look cursor.play := rfl

/-- The tracker once a reading of the cursors has failed. -/
def disarmed (t : PositionTracker) : PositionTracker :=
  { t with
    ring := { t.ring with
      buffer := { t.ring.buffer with armed := { t.ring.buffer.armed with cursor := false } } } }

@[simp] theorem view_disarmed (t : PositionTracker) : t.disarmed.view = t.view := rfl

/-- A look that is not answered. -/
theorem refresh_of_armed (draining : Bool) (armed : t.ring.buffer.armed.cursor = true) :
    t.refresh draining = (.error (.transport .cursorFailed), t.disarmed) := by
  unfold refresh RingBuffer.cursor SoundBuffer.cursor
  rw [if_pos armed]
  rfl

/-- A look that is answered. -/
theorem refresh_eq (draining : Bool) (sound : t.view.Sound)
    (answering : t.ring.buffer.armed.cursor = false) :
    t.refresh draining
      = (.ok (t.found draining t.ring.buffer.position),
        t.looked draining t.ring.buffer.position) := by
  have read : t.ring.cursor = (.ok t.ring.buffer.position, t.ring) := by
    unfold RingBuffer.cursor SoundBuffer.cursor
    rw [if_neg (by simp [answering])]
  unfold refresh
  rw [read]
  dsimp only
  rw [if_neg (show t.size ≠ 0 from Nat.ne_of_gt sound.pos),
    RingBuffer.fillSilence_eq sound.length_eq sound.pos sound.granting]
  rfl

/-- A write position at most a lap after the last reading is that far ahead of it. -/
theorem softwareLead_of_position {size seen y : Nat} (after : seen < y) (lap : y ≤ seen + size) :
    softwareLead (seen % size) (y % size) size = y - seen := by
  have pos : 0 < size := by omega
  unfold softwareLead
  rcases Nat.lt_or_eq_of_le lap with within | rfl
  · rw [distance_of_lt (Nat.le_of_lt after) within, if_neg (by omega)]
  · rw [distance_mod pos (by omega), Nat.add_sub_cancel_left, Nat.mod_self, if_pos rfl]

/-- What the hardware answers to the next reading of the cursors. -/
def answer (t : PositionTracker) : Option Cursor :=
  if t.ring.buffer.armed.cursor then none else some t.ring.buffer.position

theorem refresh_of_answer (draining : Bool) (sound : t.view.Sound) {cursor : Cursor}
    (answered : t.answer = some cursor) :
    t.refresh draining = (.ok (t.found draining cursor), t.looked draining cursor) := by
  unfold answer at answered
  split at answered
  · cases answered
  · next answering =>
    obtain rfl := Option.some.inj answered
    exact refresh_eq draining sound (by simpa using answering)

theorem view_refresh (sound : t.view.Sound) (draining : Bool) :
    (t.refresh draining).2.view = t.view.read t.answer := by
  unfold answer
  split
  · next armed => rw [refresh_of_armed draining armed, view_disarmed, RingView.read]
  · next answering =>
    rw [refresh_eq draining sound (by simpa using answering), view_looked, RingView.read]

/-- A look succeeds only if it is answered. -/
theorem answer_of_refresh {draining : Bool} {positions : Positions} {t' : PositionTracker}
    (h : t.refresh draining = (.ok positions, t')) :
    t.answer.isSome := by
  unfold answer
  split
  · next armed =>
    rw [refresh_of_armed draining armed] at h
    cases h
  · rfl

/-! ### Writing -/

/-- The tracker once `data` was put at `offset`. -/
def committed (t : PositionTracker) (offset : Nat) (data : List UInt8) : PositionTracker where
  ring := t.ring.withBytes (overlay t.ring.buffer.bytes offset data)
  lastPlay := t.lastPlay
  writePos := if data = [] then t.writePos
    else some ((offset + min data.length t.size) % t.size)

@[simp] theorem view_committed (t : PositionTracker) (offset : Nat) (data : List UInt8) :
    (t.committed offset data).view = t.view.write offset data := rfl

theorem commit_eq (sound : t.view.Sound) (offset : Nat) (data : List UInt8) :
    t.commit offset data = (.ok (split offset data.length t.size), t.committed offset data) := by
  unfold commit
  rw [RingBuffer.write_eq sound.length_eq sound.pos sound.granting]
  dsimp only
  have pos : 0 < t.ring.size := sound.pos
  simp only [isEmpty_split_iff pos, List.length_eq_zero_iff]
  split
  · next empty =>
    rw [committed, if_pos empty]
    rfl
  · next nonempty =>
    rw [committed, if_neg nonempty, size, stop_split pos]

/-- A commitment that succeeds covers what was asked for, as far as the ring reaches. -/
theorem region_of_commit {t' : PositionTracker} {offset : Nat} {data : List UInt8}
    {region : Segments} (committed : t.commit offset data = (.ok region, t')) :
    region = split offset data.length t.size := by
  unfold commit at committed
  split at committed
  · cases committed
  next written =>
  split at committed <;> (cases committed; exact RingBuffer.region_of_write written)

theorem length_of_commit {t' : PositionTracker} {offset : Nat} {data : List UInt8}
    {region : Segments} (committed : t.commit offset data = (.ok region, t')) :
    region.length = min data.length t.size := by
  rw [region_of_commit committed, length_split]

/-! ### Forgetting -/

theorem view_reset (t : PositionTracker) : t.reset.view = t.view := rfl

theorem clear_eq (sound : t.view.Sound) :
    t.clear = (.ok (),
      { t with
        ring := t.ring.withBytes (List.replicate t.size t.ring.silence), writePos := none }) := by
  unfold clear
  rw [RingBuffer.clear_eq sound.length_eq sound.pos sound.granting]
  rfl

end PositionTracker

end Playout
