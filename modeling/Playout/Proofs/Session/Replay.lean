import Playout.Proofs.Session.Ring

/-!
# Nothing is played twice

A `Session` is a renderer together with an `Account` of what became of the bytes on its ring: what
was committed, what the play cursor passed, and where that cursor was when it was last read. Time
passes in it byte by byte (`Session.Run.play`), and between two bytes any harmless operation may
take place.

As long as the play cursor moves by less than a lap between two readings, every byte that it passes
is silence or was committed since it last passed there. The invariant is `Account.Balanced`: of the
lap that begins at the last reading, what is still ahead of the play cursor is accounted for.

## Design points

* **Before the first reading the cursor may move as it likes.** Nothing is committed without one,
  so the ring is silent until then.
* **A new buffer begins a new account.**
-/

namespace Playout

/-- What becomes of the bytes on a ring. -/
inductive RingEvent
  /-- Bytes are written from an offset on. -/
  | committed (offset : Nat) (data : List UInt8)
  /-- The play cursor passes an offset and plays the byte there. -/
  | passed (offset : Nat) (byte : UInt8)
  deriving DecidableEq, Repr

/-- The byte that was committed to an offset of a ring of `size` and not played since. The latest
event comes first. -/
def unheard (size : Nat) : List RingEvent → Nat → Option UInt8
  | [], _ => none
  | .passed offset _ :: earlier, i => if offset = i then none else unheard size earlier i
  | .committed offset data :: earlier, i =>
    (data[distance (offset % size) i size]?).or (unheard size earlier i)

@[simp] theorem unheard_passed (size offset : Nat) (byte : UInt8) (earlier : List RingEvent)
    (i : Nat) :
    unheard size (.passed offset byte :: earlier) i
      = if offset = i then none else unheard size earlier i := rfl

@[simp] theorem unheard_committed (size offset : Nat) (data : List UInt8)
    (earlier : List RingEvent) (i : Nat) :
    unheard size (.committed offset data :: earlier) i
      = (data[distance (offset % size) i size]?).or (unheard size earlier i) := rfl

/-- Every byte played was silence, or had been committed there and not played since. -/
def NoReplay (size : Nat) (silence : UInt8) : List RingEvent → Prop
  | [] => True
  | .passed offset byte :: earlier =>
    (byte = silence ∨ unheard size earlier offset = some byte) ∧ NoReplay size silence earlier
  | .committed _ _ :: earlier => NoReplay size silence earlier

/-- The account of a ring. -/
structure Account where
  /-- How many bytes the play cursor has passed. -/
  played : Nat := 0
  /-- How many it had passed when it was last read. -/
  seen : Option Nat := none
  trace : List RingEvent := []
  deriving DecidableEq, Repr

namespace Account

/-- The play cursor passes a byte on a ring of `size`. -/
def play (a : Account) (size : Nat) (byte : UInt8) : Account :=
  { a with played := a.played + 1, trace := .passed (a.played % size) byte :: a.trace }

/-- The account after an operation with these readings and commitments. -/
def enter (a : Account) (reading : Option Cursor) (commitment : Option (Nat × List UInt8)) :
    Account where
  played := a.played
  seen := if reading.isSome then some a.played else a.seen
  trace := match commitment with
    | none => a.trace
    | some (offset, data) => .committed offset data :: a.trace

end Account

/-- A renderer and the account of its ring. -/
structure Session where
  renderer : Renderer
  account : Account := {}
  deriving DecidableEq, Repr

namespace Session

/-- The session after an operation. Where there was no ring, a new account is opened. -/
def operate (s : Session) (op : Operation) : Session where
  renderer := op.apply s.renderer
  account :=
    if s.renderer.connected then
      s.account.enter (op.reading s.renderer) (op.commitment s.renderer)
    else {}

/-- The sessions that come about while nobody else writes to the ring, no lock fails, and the play
cursor moves by less than a lap between two readings. -/
inductive Run : Session → Prop
  | create {device : VirtualDevice} {config : RendererConfig} {r : Renderer}
      (created : Renderer.create device config = .ok r) :
      Run { renderer := r }
  /-- The play cursor passes a byte. -/
  | play {s : Session} {t : PositionTracker} {byte : UInt8} (run : Run s)
      (connected : s.renderer.tracker = some t)
      (under : t.ring.buffer.bytes[s.account.played % t.size]? = some byte)
      (lap : ∀ seen ∈ s.account.seen, s.account.played + 1 < seen + t.size) :
      Run { s with account := s.account.play t.size byte }
  /-- An operation takes place; if it reads the cursors, it finds where the hardware is. -/
  | operate {s : Session} {op : Operation} (run : Run s)
      (harmless : op.harmless = true)
      (found : ∀ cursor ∈ op.reading s.renderer, ∀ t ∈ s.renderer.tracker,
        cursor.play = s.account.played % t.size) :
      Run (s.operate op)

end Session

/-! ### What is on the ring -/

/-- The byte at an offset is silence, or was committed there and not played since. -/
def RingView.Accounts (v : RingView) (trace : List RingEvent) (i : Nat) : Prop :=
  v.bytes[i]? = some v.silence ∨ v.bytes[i]? = unheard v.size trace i

namespace RingView

variable {v : RingView} {trace : List RingEvent} {i : Nat}

theorem accounts_clear (v : RingView) (trace : List RingEvent) (lt : i < v.size) :
    v.clear.Accounts trace i :=
  .inl (List.getElem?_replicate_of_lt lt)

/-- A commitment accounts for the bytes that it writes and leaves the others alone. -/
theorem Accounts.write (accounts : v.Accounts trace i) (sound : v.Sound) (lt : i < v.size)
    (offset : Nat) (data : List UInt8) :
    (v.write offset data).Accounts (.committed offset data :: trace) i := by
  unfold Accounts RingView.write at *
  dsimp only
  rw [getElem?_overlay (sound.length_eq ▸ lt), sound.length_eq, unheard_committed]
  split
  · next covered =>
    right
    rw [List.getElem?_eq_getElem covered, Option.some_or]
  · next beyond =>
    rw [List.getElem?_eq_none (Nat.not_lt.1 beyond), Option.none_or]
    exact accounts

/-- Playing accounts for one byte only. -/
theorem Accounts.play (accounts : v.Accounts trace i) {offset : Nat} (ne : offset ≠ i)
    (byte : UInt8) :
    v.Accounts (.passed offset byte :: trace) i := by
  rwa [Accounts, unheard_passed, if_neg ne]

end RingView

/-! ### Balanced accounts -/

namespace Account

/-- The account agrees with the ring on what the play cursor may still pass before it is read
again. -/
structure Balanced (a : Account) (v : RingView) : Prop where
  sound : v.Sound
  silent : a.seen = none → ∀ i < v.size, v.bytes[i]? = some v.silence
  lastPlay_eq : ∀ seen ∈ a.seen, v.lastPlay = seen % v.size
  lap : ∀ seen ∈ a.seen, seen ≤ a.played ∧ a.played < seen + v.size
  ahead : ∀ seen ∈ a.seen, ∀ x, a.played ≤ x → x < seen + v.size →
    v.Accounts a.trace (x % v.size)
  noReplay : NoReplay v.size v.silence a.trace

variable {a : Account} {v : RingView}

theorem balanced_new (sound : v.Sound) (silent : v = v.clear) : ({} : Account).Balanced v where
  sound := sound
  silent _ i lt := by
    rw [silent]
    exact List.getElem?_replicate_of_lt lt
  lastPlay_eq := nofun
  lap := nofun
  ahead := nofun
  noReplay := trivial

theorem Balanced.clear (balanced : a.Balanced v) : a.Balanced v.clear where
  sound := balanced.sound.clear
  silent _ _ lt := List.getElem?_replicate_of_lt lt
  lastPlay_eq := balanced.lastPlay_eq
  lap := balanced.lap
  ahead _ _ _ _ _ := v.accounts_clear _ (Nat.mod_lt _ balanced.sound.pos)
  noReplay := balanced.noReplay

/-- A reading of the cursors accounts for a whole lap from the play cursor on: what was played
since the last one is silenced, and the rest was accounted for before. -/
theorem Balanced.read (balanced : a.Balanced v) {answer : Option Cursor}
    (found : ∀ cursor ∈ answer, cursor.play = a.played % v.size) :
    (a.enter answer none).Balanced (v.read answer) := by
  match answer with
  | none => exact balanced
  | some cursor =>
    have sound := balanced.sound
    have pos := sound.pos
    have play := found cursor rfl
    refine ⟨sound.look _, nofun, ?_, ?_, ?_, balanced.noReplay⟩
    · rintro _ ⟨⟩
      exact play
    · rintro _ ⟨⟩
      exact ⟨Nat.le_refl _, Nat.lt_add_of_pos_right pos⟩
    · rintro _ ⟨⟩ x (le : a.played ≤ x) (lt : x < a.played + v.size)
      have inside := Nat.mod_lt x pos
      cases last : a.seen with
      | none =>
        exact .inl (RingView.getElem?_look_of_silent sound inside
          (balanced.silent last _ inside) _)
      | some seen =>
        obtain ⟨behind, near⟩ := balanced.lap seen last
        have looked := RingView.getElem?_look sound (balanced.lastPlay_eq seen last) behind near
          le lt
        rw [← play] at looked
        by_cases within : x < seen + v.size
        · rw [if_pos within] at looked
          rcases balanced.ahead seen last x le within with silent | committed
          · exact .inl (looked.trans silent)
          · exact .inr (looked.trans committed)
        · -- A lap further than something played since: it was silenced.
          rw [if_neg within] at looked
          exact .inl looked

/-- A commitment after a reading accounts for what it writes. -/
theorem Balanced.put (balanced : a.Balanced v) {commitment : Option (Nat × List UInt8)}
    (read : commitment.isSome → a.seen.isSome) :
    (a.enter none commitment).Balanced (v.put commitment) := by
  match commitment with
  | none => exact balanced
  | some (offset, data) =>
    refine ⟨balanced.sound.write _ _, fun unread => ?_, balanced.lastPlay_eq, balanced.lap, ?_,
      balanced.noReplay⟩
    · have unread : a.seen = none := unread
      simp [unread] at read
    · intro seen last x le lt
      exact (balanced.ahead seen last x le lt).write balanced.sound
        (Nat.mod_lt x balanced.sound.pos) offset data

theorem Balanced.play (balanced : a.Balanced v) {byte : UInt8}
    (under : v.bytes[a.played % v.size]? = some byte)
    (lap : ∀ seen ∈ a.seen, a.played + 1 < seen + v.size) :
    (a.play v.size byte).Balanced v := by
  refine ⟨balanced.sound, balanced.silent, balanced.lastPlay_eq, ?_, ?_, ?_, balanced.noReplay⟩
  · intro seen last
    exact ⟨Nat.le_succ_of_le (balanced.lap seen last).1, lap seen last⟩
  · intro seen last x (le : a.played + 1 ≤ x) lt
    have near := (balanced.lap seen last).1
    refine (balanced.ahead seen last x (Nat.le_of_succ_le le) lt).play (fun same => ?_) byte
    -- Less than a lap apart, two positions lie at different offsets.
    have apart : distance (a.played % v.size) (x % v.size) v.size = x - a.played :=
      distance_of_lt (by omega) (by omega)
    rw [same, distance_self] at apart
    omega
  · -- Before the first reading the ring is silent; after it the lap covers the byte.
    cases last : a.seen with
    | none =>
      have silent := balanced.silent last _ (Nat.mod_lt a.played balanced.sound.pos)
      exact .inl (Option.some.inj (under.symm.trans silent))
    | some seen =>
      have near := (balanced.lap seen last).2
      rcases balanced.ahead seen last a.played (Nat.le_refl _) near with silent | committed
      · exact .inl (Option.some.inj (under.symm.trans silent))
      · exact .inr (committed.symm.trans under)

end Account

/-! ### Runs -/

namespace Session

variable {s : Session}

/-- The account agrees with the ring, if there is one. -/
def Balanced (s : Session) : Prop := ∀ v ∈ s.renderer.ringView, s.account.Balanced v

/-- An operation on a connected ring enters its reading and its commitment. -/
theorem balanced_ringAfter {a : Account} {v : RingView} {op : Operation} {r : Renderer}
    (balanced : a.Balanced v)
    (found : ∀ cursor ∈ op.reading r, cursor.play = a.played % v.size) :
    (a.enter (op.reading r) (op.commitment r)).Balanced (op.ringAfter r v) := by
  unfold Operation.ringAfter
  split
  · next silences =>
    cases op with
    | endFlush | finishEnd => exact balanced.clear
    | _ => cases silences
  · exact (balanced.read found).put fun commits => by
      have read := Operation.reading_of_commitment commits
      simp [Account.enter, read]

theorem Balanced.operate (balanced : s.Balanced) {op : Operation}
    (harmless : op.harmless = true)
    (found : ∀ cursor ∈ op.reading s.renderer, ∀ t ∈ s.renderer.tracker,
      cursor.play = s.account.played % t.size) :
    (s.operate op).Balanced := by
  intro v' after
  cases before : s.renderer.ringView with
  | none =>
    obtain ⟨sound, silent⟩ := Operation.ringView_apply_of_none harmless before v' after
    rw [Session.operate, if_neg (by rw [← Renderer.isSome_ringView, before]; nofun)]
    exact Account.balanced_new sound silent
  | some v =>
    have account := balanced v before
    obtain ⟨c, connected, rfl⟩ := Renderer.exists_of_ringView before
    rw [Session.operate, if_pos (by rw [← Renderer.isSome_ringView, before]; rfl)]
    rcases Operation.ringView_apply harmless account.sound before with released | kept
    · cases released.symm.trans after
    · obtain rfl := Option.some.inj (kept.symm.trans after)
      exact balanced_ringAfter account fun cursor read =>
        found cursor read c.tracker (Renderer.tracker_of_connection connected)

theorem Run.balanced (run : s.Run) : s.Balanced := by
  induction run with
  | @create device config r created =>
    unfold Renderer.create at created
    split at created
    · cases created
      nofun
    · cases created
  | @play s t byte run connected under lap ih =>
    intro v view
    have := view
    rw [Renderer.ringView, connected] at this
    obtain rfl := Option.some.inj this
    exact (ih _ view).play under lap
  | operate run harmless found ih => exact ih.operate harmless found

end Session

/-! ### Nothing is played twice -/

theorem NoReplay.of_append {size : Nat} {silence : UInt8} {later earlier : List RingEvent}
    (h : NoReplay size silence (later ++ earlier)) :
    NoReplay size silence earlier := by
  induction later with
  | nil => exact h
  | cons event later ih =>
    cases event with
    | passed offset byte => exact ih h.2
    | committed offset data => exact ih h

/-- What is to be heard at an offset was committed after the play cursor last passed there. -/
theorem exists_committed_of_unheard {size offset : Nat} {first byte : UInt8}
    {between earlier : List RingEvent}
    (h : unheard size (between ++ .passed offset first :: earlier) offset = some byte) :
    ∃ target data, .committed target data ∈ between
      ∧ data[distance (target % size) offset size]? = some byte := by
  induction between with
  | nil => simp at h
  | cons event between ih =>
    cases event with
    | passed other played =>
      rw [List.cons_append, unheard_passed] at h
      split at h
      · cases h
      · obtain ⟨target, data, mem, here⟩ := ih h
        exact ⟨target, data, List.mem_cons_of_mem _ mem, here⟩
    | committed target data =>
      rw [List.cons_append, unheard_committed] at h
      cases here : data[distance (target % size) offset size]? with
      | some found =>
        rw [here, Option.some_or] at h
        exact ⟨target, data, List.mem_cons_self .., here.trans h⟩
      | none =>
        rw [here, Option.none_or] at h
        obtain ⟨target', data', mem, here'⟩ := ih h
        exact ⟨target', data', List.mem_cons_of_mem _ mem, here'⟩

/-- Along every run, every byte that the play cursor passes is silence or was committed there since
it last passed; so between two passes of an offset that are not silent something was committed
there. -/
theorem Session.Run.noReplay {s : Session} {t : PositionTracker} (run : s.Run)
    (connected : s.renderer.tracker = some t) :
    NoReplay t.size t.ring.silence s.account.trace
      ∧ ∀ later between earlier offset first second,
        s.account.trace
            = later ++ .passed offset second :: (between ++ .passed offset first :: earlier) →
        second = t.ring.silence ∨ ∃ target data, .committed target data ∈ between
          ∧ data[distance (target % t.size) offset t.size]? = some second := by
  have view : s.renderer.ringView = some t.view := by rw [Renderer.ringView, connected]; rfl
  have noReplay := (run.balanced t.view view).noReplay
  refine ⟨noReplay, fun later between earlier offset first second trace => ?_⟩
  rw [trace] at noReplay
  rcases (NoReplay.of_append noReplay).1 with silent | committed
  · exact .inl silent
  · exact .inr (exists_committed_of_unheard committed)

/-- Three bytes are written behind the hardware, and the first of them is played. -/
theorem noReplay_of_three_bytes :
    ∃ s t, Session.Run s ∧ s.renderer.tracker = some t
      ∧ s.account.trace
        = [.passed 2 1, .passed 1 0x80, .passed 0 0x80, .committed 2 [1, 2, 3]]
      ∧ NoReplay t.size t.ring.silence s.account.trace := by
  have created := Session.Run.create (show Renderer.create Renderer.unconnected.device
    Renderer.unconnected.config = .ok _ from rfl)
  have connected : Session.Run (Session.operate _ (.connect (.pcm 1000 1 8))) :=
    created.operate rfl nofun
  have running : Session.Run (Session.operate _ (.start 0)) := connected.operate rfl nofun
  have fed : Session.Run (Session.operate _ (.feed ⟨[1, 2, 3], none⟩ [[.setCursor 0 2]])) :=
    running.operate rfl (by rintro _ ⟨⟩ _ ⟨⟩; rfl)
  have first := fed.play rfl rfl (by rintro _ ⟨⟩; decide)
  have second := first.play rfl rfl (by rintro _ ⟨⟩; decide)
  have third := second.play rfl rfl (by rintro _ ⟨⟩; decide)
  exact ⟨_, _, third, rfl, rfl, (third.noReplay rfl).1⟩

end Playout
