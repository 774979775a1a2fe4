import Playout.Proofs.Session.Geometry
import Playout.Proofs.Session.Interruption
import Playout.Proofs.Session.Ring
import Playout.Proofs.Session.Standing

/-!
# Flushes that end on a ring that was not silenced

The end of a flush opens the stream before it silences the ring. If the hardware refuses the ring,
the call fails, but the flush is over, the stream has not ended any more, and its next byte follows
the hardware; the bytes that were to be flushed are all still there
(`Reachable.after_failed_endFlush`).

From then on no sample is declined, whatever happens, until a flush begins or the end of the stream
is announced (`Open.applyAll`), and each of the old bytes stays where it is until the hardware has
played it or another byte is written over it (`byte_applyAll`). So samples from after the flush are
heard among those from before it.
-/

namespace Playout

/-! ### The ring -/

/-- A ring that lies on its buffer can be silenced unless the next lock is bound to fail. That
failure is used up, and not a byte is lost. -/
theorem RingBuffer.clear_refused_inv {r r' : RingBuffer} {e : TransportError} (pos : 0 < r.size)
    (size_eq : r.buffer.size = r.size) (refused : r.clear = (.error e, r')) :
    r.buffer.armed.lock = true ∧ e = .lockFailed 0 r.size
      ∧ r' = { r with
        buffer := { r.buffer with armed := { r.buffer.armed with lock := false } } } := by
  have region : split 0 r.size r.size = ⟨0, r.size, 0⟩ := by
    simp [split, Nat.ne_of_gt pos]
  unfold clear fillSilence at refused
  rw [region] at refused
  simp only [Segments.isEmpty, Segments.length, Nat.add_zero, beq_iff_eq, Nat.ne_of_gt pos,
    if_false] at refused
  unfold SoundBuffer.lock at refused
  by_cases armed : r.buffer.armed.lock = true
  · simp only [armed, true_or, if_true] at refused
    cases refused
    exact ⟨armed, rfl, rfl⟩
  · have inside : ¬r.buffer.size ≤ 0 := by omega
    simp only [armed, inside] at refused
    cases refused

namespace Renderer

variable {r r' : Renderer}

/-- The stream has not ended and is not being flushed, so that no sample is declined. -/
def Open (r : Renderer) : Prop := r.ended = false ∧ r.flushing = false

theorem Open.not_declined (isOpen : r.Open) (s : MediaSample) :
    (r.screen s).1 ≠ .ok (.done .declined) := by
  rcases screened : r.screen s with ⟨answer, r'⟩
  cases Decided.of_screen screened with
  | declined closed => simp [isOpen.1, isOpen.2] at closed
  | stopped | disconnected | rejected => nofun
  | kept | agreed =>
    unfold take
    dsimp only
    split <;> nofun

end Renderer

/-! ### What closes a stream -/

/-- Whether a flush begins while the hardware is looked at. -/
def Schedule.flushes (schedule : Schedule) : Bool := schedule.any (·.any (· == .beginFlush))

/-- Whether an operation begins a flush or announces the end of the stream. -/
def Operation.closes : Operation → Bool
  | beginFlush | markEnd => true
  | disturb act => act == .beginFlush
  | feed _ schedule | drain schedule => schedule.flushes
  | _ => false

namespace Renderer

variable {r r' : Renderer}

theorem Open.of_unmoved (isOpen : r.Open) (unmoved : r.Unmoved r') : r'.Open := by
  rw [unmoved]
  exact isOpen

theorem Open.disturb (isOpen : r.Open) {act : Disturbance} (quiet : (act == .beginFlush) = false) :
    (r.disturb act).Open := by
  rcases r with ⟨_, _, _, _ | c⟩ <;> cases act <;> first | exact isOpen | cases quiet

theorem Open.disturbAll (isOpen : r.Open) {acts : List Disturbance}
    (quiet : acts.any (· == .beginFlush) = false) : (r.disturbAll acts).Open := by
  induction acts generalizing r with
  | nil => exact isOpen
  | cons act acts ih =>
    rw [List.any_cons, Bool.or_eq_false_iff] at quiet
    exact ih (isOpen.disturb quiet.1) quiet.2

theorem Open.atReading (isOpen : r.Open) {acts : List Disturbance}
    (quiet : acts.any (· == .beginFlush) = false) : (r.atReading acts).Open := by
  unfold Renderer.atReading
  split
  · exact isOpen
  · exact isOpen.disturbAll quiet

theorem Open.look (isOpen : r.Open) {schedule rest : Schedule} (quiet : schedule.flushes = false)
    {work : Connection → Except Failure α × PositionTracker} {answer : Except RenderError α}
    (looked : r.look schedule work = (answer, r', rest)) : r'.Open := by
  cases Looked.of_look looked with
  | unscheduled => exact isOpen
  | disconnected acts | failed acts | found acts =>
    rw [Schedule.flushes, List.any_cons, Bool.or_eq_false_iff] at quiet
    exact isOpen.atReading quiet.1

theorem Open.feedPass (isOpen : r.Open) (left : Feed) {schedule : Schedule}
    (quiet : schedule.flushes = false) : (r.feedPass left schedule).2.1.Open := by
  by_cases idle : left.data.isEmpty ∨ r.state ≠ .running
  · obtain ⟨stats, counted⟩ := feedPass_of_idle idle schedule
    rw [counted]
    exact isOpen
  rw [feedPass_of_not_idle idle]
  rcases planned : r.planChunk left.writeAt schedule with ⟨chunk, r', rest⟩
  have planned_open : r'.Open := by
    cases Planned.of_planChunk planned with
    | overflow | disconnected => exact isOpen
    | failed _ looked | found _ looked =>
      have later := isOpen.look quiet looked
      exact later
  rcases chunk with _ | _ | place
  · exact planned_open
  · exact planned_open
  · rcases written : r'.writeChunk left.data place with ⟨outcome, r''⟩
    dsimp only
    rw [written]
    cases Written.of_writeChunk written <;> exact planned_open

theorem Open.drainPass (isOpen : r.Open) {schedule : Schedule} (quiet : schedule.flushes = false) :
    (r.drainPass schedule).2.1.Open := by
  rcases passed : r.drainPass schedule with ⟨outcome, r', rest⟩
  cases Drained.of_drainPass passed with
  | interrupted => exact isOpen
  | failed _ looked | found _ looked =>
    have later := isOpen.look quiet looked
    exact later

theorem Open.screen (isOpen : r.Open) (s : MediaSample) : (r.screen s).2.Open := by
  have take {r : Renderer} (isOpen : r.Open) : (r.take s).2.Open := by
    rw [take_eq]
    exact isOpen
  have changed {new : WaveFormat} {answer : Except RenderError Unit} {r' : Renderer}
      (changed : r.renegotiate new = (answer, r')) : r'.Open := by
    rw [eq_of_renegotiate changed]
    exact isOpen
  rcases screened : r.screen s with ⟨answer, r'⟩
  cases Decided.of_screen screened with
  | declined | stopped | disconnected => exact isOpen
  | kept => exact take isOpen
  | rejected _ _ _ rejected => exact changed rejected
  | agreed _ _ _ _ agreed => exact take (changed agreed)

theorem Open.start (isOpen : r.Open) (origin : Ticks) : (r.start origin).2.Open := by
  have prepared : (r.prepared origin).Open := by
    rw [prepared_eq]
    refine ⟨?_, isOpen.2⟩
    dsimp only
    split
    · rfl
    · exact isOpen.1
  rcases started : r.start origin with ⟨answer, r'⟩
  cases Started.of_start started with
  | running => exact isOpen
  | refused _ asked => exact prepared.of_unmoved (unmoved_onTransport asked)
  | granted _ asked =>
    have asked_open := prepared.of_unmoved (unmoved_onTransport asked)
    unfold conclude
    split <;> exact asked_open

theorem Open.pause (isOpen : r.Open) : r.pause.2.Open := by
  unfold Renderer.pause
  split
  · exact isOpen
  · exact ⟨rfl, isOpen.2⟩
  · have halted := isOpen.of_unmoved r.unmoved_stopHardware
    exact halted

theorem Open.stop (isOpen : r.Open) : r.stop.Open := by
  have halted : (if r.state = .running then r.stopHardware else r).Open := by
    split
    · exact isOpen.of_unmoved r.unmoved_stopHardware
    · exact isOpen
  unfold Renderer.stop
  dsimp only
  split <;> exact halted

theorem open_endFlush (r : Renderer) : r.endFlush.2.Open := by
  cases connected : r.connection with
  | none =>
    rw [endFlush_of_none connected]
    exact ⟨rfl, rfl⟩
  | some c =>
    rw [endFlush_of_connection connected]
    exact ⟨rfl, rfl⟩

theorem Open.finishEnd (isOpen : r.Open) (drained : Bool) : (r.finishEnd drained).2.Open := by
  rcases finished : r.finishEnd drained with ⟨answer, r'⟩
  cases Finished.of_finishEnd finished with
  | refused => exact isOpen
  | disconnected | cleared =>
    unfold conclude
    split <;> exact isOpen

/-- Only the beginning of a flush and the announced end close a stream. -/
theorem Open.apply (isOpen : r.Open) {op : Operation} (opens : op.closes = false) :
    (op.apply r).Open := by
  cases op with
  | beginFlush | markEnd => cases opens
  | connect format => exact isOpen.of_unmoved (r.unmoved_connect format)
  | disconnect => exact isOpen.of_unmoved r.unmoved_disconnect
  | pause => exact isOpen.pause
  | start origin => exact isOpen.start origin
  | stop => exact isOpen.stop
  | endFlush => exact r.open_endFlush
  | setVolume volume => exact isOpen.of_unmoved (r.unmoved_setVolume volume)
  | setPan pan => exact isOpen.of_unmoved (r.unmoved_setPan pan)
  | close => exact isOpen.of_unmoved r.unmoved_close
  | screen sample => exact isOpen.screen sample
  | feed left schedule => exact isOpen.feedPass left opens
  | drain schedule => exact isOpen.drainPass opens
  | finishEnd drained => exact isOpen.finishEnd drained
  | disturb act => exact isOpen.disturb opens
  | _ => exact isOpen

theorem Open.applyAll (isOpen : r.Open) {ops : List Operation}
    (opens : ∀ op ∈ ops, op.closes = false) : (Operation.applyAll ops r).Open := by
  induction ops generalizing r with
  | nil => exact isOpen
  | cons op ops ih =>
    exact ih (isOpen.apply (opens op List.mem_cons_self)) fun later among =>
      opens later (List.mem_cons_of_mem op among)

end Renderer

/-! ### What becomes of a byte of the ring -/

namespace Operation

variable {op : Operation} {r : Renderer} {v : RingView} {i : Nat}

/-- Whether an operation silences byte `i` of the ring, as one that was played or with the whole
ring, or writes to it. -/
def Touches (op : Operation) (r : Renderer) (v : RingView) (i : Nat) : Prop :=
  op.silences = true
    ∨ (∃ cursor ∈ op.reading r,
      distance v.lastPlay i v.size < distance v.lastPlay cursor.play v.size)
    ∨ ∃ written ∈ op.commitment r, distance (written.1 % v.size) i v.size < written.2.length

/-- An operation that has nothing to do with the bytes of the ring touches none. -/
theorem not_touches_of_aside (aside : op.isAside = true) : ¬op.Touches r v i := by
  cases op with
  | connect | disconnect | close | endFlush | finishEnd | feed | drain => cases aside
  | _ => simp [Touches, silences, reading, commitment]

/-- A byte that an operation does not touch stays. -/
theorem getElem?_ringAfter (sound : v.Sound) (last_lt : v.lastPlay < v.size) (lt : i < v.size)
    (spared : ¬op.Touches r v i) : (op.ringAfter r v).bytes[i]? = v.bytes[i]? := by
  simp only [Touches, not_or, not_exists, not_and, Nat.not_lt] at spared
  obtain ⟨loud, unplayed, unwritten⟩ := spared
  have read : (v.read (op.reading r)).bytes[i]? = v.bytes[i]? := by
    cases answered : op.reading r with
    | none => rfl
    | some cursor =>
      have beyond := unplayed cursor answered
      rw [RingView.read, RingView.look, getElem?_overlay (sound.length_eq ▸ lt), sound.length_eq,
        Nat.mod_eq_of_lt last_lt, if_neg (by rw [List.length_replicate]; omega)]
  have read_sound := sound.read (op.reading r)
  have read_size : (v.read (op.reading r)).size = v.size := by cases op.reading r <;> rfl
  rw [ringAfter, if_neg (by simpa using loud), ← read]
  cases commits : op.commitment r with
  | none => rfl
  | some written =>
    have beyond := unwritten written commits
    have inside : i < (v.read (op.reading r)).bytes.length := by
      rw [read_sound.length_eq, read_size]
      exact lt
    rw [RingView.put, RingView.write, getElem?_overlay inside, read_sound.length_eq, read_size,
      if_neg (Nat.not_lt.2 beyond)]

end Operation

namespace Renderer

variable {r r' : Renderer} {v : RingView} {i : Nat}

/-- The ring stays connected, and no operation of a row touches byte `i` of it. -/
def Spares (i : Nat) : List Operation → Renderer → Prop
  | [], _ => True
  | op :: ops, r =>
    (∀ v ∈ r.ringView, ¬op.Touches r v i) ∧ (op.apply r).connection ≠ none
      ∧ Spares i ops (op.apply r)

/-- A byte of the ring stays over a row of harmless operations that spare it. -/
theorem WellFormed.byte_applyAll (formed : r.WellFormed) (sound : v.Sound)
    (view : r.ringView = some v) (lt : i < v.size) {ops : List Operation}
    (harmless : ∀ op ∈ ops, op.harmless = true) (spared : Spares i ops r) :
    ∃ v', (Operation.applyAll ops r).ringView = some v' ∧ v'.bytes[i]? = v.bytes[i]? := by
  induction ops generalizing r v with
  | nil => exact ⟨v, view, rfl⟩
  | cons op ops ih =>
    obtain ⟨untouched, stays, later⟩ := spared
    obtain ⟨c, connected, rfl⟩ := exists_of_ringView view
    have last_lt := (formed.connection c connected).seated.lastPlay_lt
    rcases op.ringView_apply (harmless op List.mem_cons_self) sound view with gone | after
    · have lost : (op.apply r).connection = none := by
        simpa [Renderer.ringView, Renderer.tracker] using gone
      exact absurd lost stays
    · have size_eq : (op.ringAfter r c.tracker.view).size = c.tracker.view.size := by
        unfold Operation.ringAfter
        split
        · rfl
        · cases op.reading r <;> cases op.commitment r <;> rfl
      obtain ⟨v', view', same⟩ := ih (formed.apply op) (op.sound_ringAfter sound r) after
        (size_eq ▸ lt) (fun next among => harmless next (List.mem_cons_of_mem op among)) later
      refine ⟨v', view', same.trans ?_⟩
      exact Operation.getElem?_ringAfter sound last_lt lt (untouched _ view)

/-! ### A flush that ends in vain -/

end Renderer

/-- The connection once a refused lock is used up, with its bytes as they were; the next one follows
the hardware. -/
def Connection.unsilenced (c : Connection) : Connection :=
  { c with
    tracker := { c.tracker with
      ring := { c.tracker.ring with
        buffer := { c.tracker.ring.buffer with
          armed := { c.tracker.ring.buffer.armed with lock := false } } }
      writePos := none } }

namespace Renderer

variable {r r' : Renderer}

theorem WellFormed.endFlush_refused_inv (formed : r.WellFormed) {e : RenderError}
    (failed : r.endFlush = (.error e, r')) :
    ∃ c, r.connection = some c ∧ c.tracker.ring.buffer.armed.lock = true
      ∧ e = .hardware (.lockFailed 0 c.tracker.size)
      ∧ r' = { r.reopen with connection := some c.unsilenced } := by
  cases connected : r.connection with
  | none =>
    rw [endFlush_of_none connected] at failed
    cases failed
  | some c =>
    have seated := (formed.connection c connected).seated
    rw [endFlush_of_connection connected] at failed
    unfold PositionTracker.clear at failed
    rcases silenced : c.tracker.ring.clear with ⟨refusal | _, ring⟩
    · obtain ⟨armed, rfl, rfl⟩ :=
        RingBuffer.clear_refused_inv seated.pos seated.spans.size_eq silenced
      rw [silenced] at failed
      cases failed
      refine ⟨c, rfl, armed, rfl, ?_⟩
      rw [setTracker, show r.reopen.connection = some c from connected]
      rfl
    · rw [silenced] at failed
      cases failed

/-- What the end of a flush leaves if the ring could not be silenced: a stream that is open, on a
ring with all of the old bytes. No sample is declined from then on until something closes the
stream, and an old byte stays until it is played or written over. -/
theorem Reachable.after_failed_endFlush (reached : r.Reachable) {e : RenderError}
    (failed : r.endFlush = (.error e, r')) :
    ∃ c, r.connection = some c ∧ c.tracker.ring.buffer.armed.lock = true
      ∧ e = .hardware (.lockFailed 0 c.tracker.size)
      ∧ r' = { r with
        flushing := false
        ended := false
        mediaTime := none
        interrupt := false
        connection := some c.unsilenced }
      ∧ (∀ (ops : List Operation) (s : MediaSample), (∀ op ∈ ops, op.closes = false) →
        ((Operation.applyAll ops r').screen s).1 ≠ .ok (.done .declined))
      ∧ ∀ (ops : List Operation) (i : Nat), (∀ op ∈ ops, op.harmless = true) →
        i < c.tracker.size → Spares i ops r' →
        ∃ v, (Operation.applyAll ops r').ringView = some v
          ∧ v.bytes[i]? = c.tracker.ring.buffer.bytes[i]? := by
  have formed' : r'.WellFormed := by
    have formed := (reached.operate .endFlush).wellFormed
    rwa [Operation.apply, failed] at formed
  obtain ⟨c, connected, armed, rfl, rfl⟩ := reached.wellFormed.endFlush_refused_inv failed
  have seated := (reached.wellFormed.connection c connected).seated
  refine ⟨c, connected, armed, rfl, rfl, ?_, ?_⟩
  · intro ops s opens
    have isOpen : Open { r.reopen with connection := some c.unsilenced } := ⟨rfl, rfl⟩
    exact (isOpen.applyAll opens).not_declined s
  · intro ops i harmless lt spared
    have sound : c.unsilenced.tracker.view.Sound := ⟨seated.pos, seated.spans.size_eq, rfl⟩
    exact formed'.byte_applyAll sound rfl lt harmless spared

/-- The stream of `tenBytes` with five bytes queued, while it is being flushed; the next lock will
fail. -/
def flushingTenBytes : Renderer :=
  Operation.applyAll
    [.disturb (.setCursor 0 3), .feed ⟨[1, 2, 3, 4, 5], none⟩ [[]], .beginFlush,
      .disturb .failLock]
    tenBytes

/-- After a pause the old bytes are still there, and samples are taken. -/
theorem paused_after_failed_endFlush :
    flushingTenBytes.Reachable ∧ ∃ r',
      flushingTenBytes.endFlush = (.error (.hardware (.lockFailed 0 10)), r')
        ∧ (r'.pause.2.screen { data := [9] }).1 ≠ .ok (.done .declined)
        ∧ ∃ v, r'.pause.2.ringView = some v ∧ v.bytes[4]? = some 2 := by
  have reached : flushingTenBytes.Reachable := reachable_tenBytes.applyAll _
  have failed : flushingTenBytes.endFlush = (.error (.hardware (.lockFailed 0 10)), _) := rfl
  obtain ⟨c, connected, -, -, -, taken, kept⟩ := reached.after_failed_endFlush failed
  cases connected
  refine ⟨reached, _, failed, taken [.pause] _ (by decide), ?_⟩
  exact kept [.pause] 4 (by decide) (by decide)
    ⟨fun _ _ => Operation.not_touches_of_aside rfl, nofun, trivial⟩

/-- During a flush samples are declined. An end of it that fails for the ring takes it for ended:
the next byte is taken, and written among those that were to be flushed. -/
theorem reopened_over_old_bytes :
    flushingTenBytes.Reachable ∧ flushingTenBytes.flushing = true
      ∧ (flushingTenBytes.screen { data := [9] }).1 = .ok (.done .declined)
      ∧ ∃ r', flushingTenBytes.endFlush = (.error (.hardware (.lockFailed 0 10)), r')
        ∧ r'.flushing = false
        ∧ (r'.screen { data := [9] }).1 = .ok (.feed ⟨[9], none⟩)
        ∧ (Operation.applyAll [.screen { data := [9] }, .feed ⟨[9], none⟩ [[]]] r').tracker.map
            (·.ring.buffer.bytes)
          = some [0x80, 0x80, 0x80, 9, 2, 3, 4, 5, 0x80, 0x80] :=
  ⟨reachable_tenBytes.applyAll _, rfl, rfl, _, rfl, rfl, rfl, by decide⟩

end Renderer

end Playout
