import Playout.Fault
import Playout.Ring.Buffer

/-!
# Tracking positions on the ring

A `PositionTracker` owns the ring of a stream. It remembers where the play cursor was when it last
looked, and where the next sequential byte goes (the write position; unset while nothing is
queued). Each look at the hardware

1. reads both cursors;
2. silences the bytes that were played since the last look, so that they are not heard again a lap
   later; and
3. decides whether the hardware has overtaken the write position.

## Design points

* **Offsets are compared from the last seen play position.** A write position on that very offset
  is a whole lap ahead: the ring is full there, not empty.
* **A drained stream expects to be overtaken.** `refresh true` unsets the write position as soon
  as the hardware has reached it and never reports an underrun.
* **The new play position is kept even if silencing fails,** since the cursors were read.
-/

namespace Playout

/-- A failed look at the ring. -/
inductive Failure
  | transport (e : TransportError)
  | fault (f : Fault)
  deriving DecidableEq, Repr

def Failure.message : Failure → String
  | transport e => e.message
  | fault f => f.message

/-- What a look at the hardware finds. -/
structure Positions where
  /-- Where the next sequential byte goes. -/
  sequential : Nat
  /-- The first offset that the hardware has not taken yet. -/
  minimum : Nat
  /-- Whether the hardware has overtaken the queued bytes. -/
  underrun : Bool
  /-- How many bytes were silenced. -/
  zeroed : Nat
  deriving DecidableEq, Repr

/-- The ring of a stream with the positions on it. -/
structure PositionTracker where
  ring : RingBuffer
  /-- The play cursor when it was last read. -/
  lastPlay : Nat := 0
  /-- The offset after the last byte queued; unset if the next write follows the hardware. -/
  writePos : Option Nat := none
  deriving DecidableEq, Repr

namespace PositionTracker

/-- Bytes on the ring. -/
def size (t : PositionTracker) : Nat := t.ring.size

/-- How far `write` is ahead of `play`, a whole lap if they coincide. -/
def softwareLead (play write size : Nat) : Nat :=
  if distance play write size = 0 then size else distance play write size

/-- Where the next sequential byte goes once the hardware is at `minimum`, whether the queued
bytes were overtaken, and what remains of the write position. -/
def resync (draining : Bool) (lastPlay : Nat) (writePos : Option Nat) (minimum size : Nat) :
    Nat × Bool × Option Nat :=
  match writePos with
  | none => (minimum, false, none)
  | some write =>
    let software := softwareLead lastPlay write size
    let hardware := distance lastPlay minimum size
    if draining ∧ software ≤ hardware then (minimum, false, none)
    else if software < hardware then (minimum, true, none)
    else (write, false, some write)

/-- Looks at the hardware. -/
def refresh (draining : Bool) (t : PositionTracker) :
    Except Failure Positions × PositionTracker :=
  match t.ring.cursor with
  | (.error e, ring) => (.error (.transport e), { t with ring })
  | (.ok cursor, ring) =>
    if t.size = 0 then (.error (.fault .emptyRing), { t with ring })
    else
      let played := distance t.lastPlay cursor.play t.size
      match ring.fillSilence t.lastPlay played with
      | (.error e, ring) => (.error (.transport e), { t with ring, lastPlay := cursor.play })
      | (.ok _, ring) =>
        let (sequential, underrun, writePos) :=
          resync draining t.lastPlay t.writePos cursor.write t.size
        (.ok { sequential, minimum := cursor.write, underrun, zeroed := played },
          { ring, lastPlay := cursor.play, writePos })

/-- Looks at the hardware while the stream goes on. -/
def update (t : PositionTracker) : Except Failure Positions × PositionTracker :=
  t.refresh false

/-- Looks at the hardware once all bytes of the stream are queued. -/
def updateDraining (t : PositionTracker) : Except Failure Positions × PositionTracker :=
  t.refresh true

/-- Writes `data` at `offset` and moves the write position behind it. -/
def commit (t : PositionTracker) (offset : Nat) (data : List UInt8) :
    Except TransportError Segments × PositionTracker :=
  match t.ring.write offset data with
  | (.error e, ring) => (.error e, { t with ring })
  | (.ok region, ring) =>
    if region.isEmpty then (.ok region, { t with ring })
    else (.ok region, { t with ring, writePos := some (region.stop t.size) })

/-- Unsets the write position. -/
def reset (t : PositionTracker) : PositionTracker := { t with writePos := none }

/-- Silences the whole ring and unsets the write position, the latter also if the former fails. -/
def clear (t : PositionTracker) : Except TransportError Unit × PositionTracker :=
  let (answer, ring) := t.ring.clear
  (answer, { t with ring, writePos := none })

/-! ### Resynchronising -/

theorem resync_none (draining : Bool) (lastPlay minimum size : Nat) :
    resync draining lastPlay none minimum size = (minimum, false, none) := rfl

/-- The write position survives exactly when it is the answer, and otherwise is unset. -/
theorem resync_writePos (draining : Bool) (lastPlay : Nat) (writePos : Option Nat)
    (minimum size : Nat) :
    (resync draining lastPlay writePos minimum size).2.2 = none
      ∧ (resync draining lastPlay writePos minimum size).1 = minimum
    ∨ (resync draining lastPlay writePos minimum size).2.2
        = some (resync draining lastPlay writePos minimum size).1 := by
  unfold resync
  split
  · exact .inl ⟨rfl, rfl⟩
  · dsimp only
    split
    · exact .inl ⟨rfl, rfl⟩
    split
    · exact .inl ⟨rfl, rfl⟩
    · exact .inr rfl

/-- A drained stream is never overtaken by surprise. -/
theorem resync_draining_underrun (lastPlay : Nat) (writePos : Option Nat) (minimum size : Nat) :
    (resync true lastPlay writePos minimum size).2.1 = false := by
  unfold resync
  split
  · rfl
  · dsimp only
    split
    · rfl
    split
    · next h1 h2 => simp only [true_and] at h1; omega
    · rfl

end PositionTracker

end Playout
