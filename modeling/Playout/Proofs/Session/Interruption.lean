import Playout.Proofs.Session.Operation

/-!
# Interrupting a call that waits

Once a call that waits holds the renderer again, two things end it: that a flush is under way, and
that the stream is stopped. Each of them is a `Level`, which one operation raises and others lower.
`Level.holds_applyAll` says after which control operations it holds.

A call that is interrupted returns without a pass, and one that is not goes on with its next pass
(`Renderer.resume_after_controls`). An interruption that is undone before the call looks again is
lost on it.

## Design points

* **Levels, not events.** Nothing counts the interruptions, and the call does not look at the
  signal that woke it. What it finds is what the last of the operations have left.
-/

namespace Playout

namespace Operation

/-- Whether a controller may do this while a call waits. -/
def isControl : Operation → Bool
  | screen _ | feed _ _ | markEnd | drain _ | finishEnd _ | disturb _ => false
  | _ => true

/-- Whether this takes a stopped stream back to one of the other states. A start does so if the
hardware plays. -/
def Revives (op : Operation) (r : Renderer) : Prop :=
  match op with
  | pause => True
  | start origin => (r.start origin).1 = .ok ()
  | _ => False

end Operation

open Operation (applyAll applyAll_cons)

namespace Renderer

/-! ### What a control operation does to the levels -/

/-- Nothing is touched but the device, the buffers that it gave, and how loud and balanced they are
to be. -/
def Unmoved (r r' : Renderer) : Prop :=
  r' = { r with
    device := r'.device
    connection := r'.connection
    released := r'.released
    volume := r'.volume
    pan := r'.pan }

variable {r r' r'' : Renderer}

theorem Unmoved.trans (first : r.Unmoved r') (later : r'.Unmoved r'') : r.Unmoved r'' := by
  refine Eq.trans later ?_
  rw [first]

theorem Unmoved.state_eq (unmoved : r.Unmoved r') : r'.state = r.state := by
  rw [unmoved]

theorem Unmoved.flushing_eq (unmoved : r.Unmoved r') : r'.flushing = r.flushing := by
  rw [unmoved]

theorem unmoved_onTransport {ask : SoundBuffer → Except TransportError Unit × SoundBuffer}
    {answer : Except TransportError Unit} (h : r.onTransport ask = (answer, r')) :
    r.Unmoved r' := by
  rcases onTransport_inv h with ⟨-, -, rfl⟩ | ⟨-, -, -, -, rfl⟩ <;> rfl

theorem unmoved_setTracker (r : Renderer) (t : PositionTracker) : r.Unmoved (r.setTracker t) := rfl

theorem unmoved_stopHardware (r : Renderer) : r.Unmoved r.stopHardware := by
  rcases halted : r.onTransport SoundBuffer.stop with ⟨answer, r'⟩
  have same := unmoved_onTransport halted
  unfold stopHardware
  rw [halted]
  dsimp only
  split
  · exact same.trans (r'.unmoved_setTracker _)
  · exact same

theorem unmoved_releaseBuffer (r : Renderer) : r.Unmoved r.releaseBuffer := by
  unfold releaseBuffer
  split <;> rfl

theorem unmoved_connect (r : Renderer) (format : WaveFormat) :
    r.Unmoved (r.connect format).2 := by
  unfold connect
  split
  · rfl
  split
  · rfl
  split
  · rfl
  dsimp only
  split <;> rfl

theorem unmoved_disconnect (r : Renderer) : r.Unmoved r.disconnect.2 := by
  unfold disconnect
  split
  · rfl
  split
  · rfl
  · exact r.unmoved_releaseBuffer

theorem unmoved_setVolume (r : Renderer) (volume : Int) : r.Unmoved (r.setVolume volume).2 := by
  unfold setVolume
  dsimp only
  split
  · next accepted => exact (unmoved_onTransport accepted).trans rfl
  · next refused => exact unmoved_onTransport refused

theorem unmoved_setPan (r : Renderer) (pan : Int) : r.Unmoved (r.setPan pan).2 := by
  unfold setPan
  dsimp only
  split
  · next accepted => exact (unmoved_onTransport accepted).trans rfl
  · next refused => exact unmoved_onTransport refused

theorem unmoved_close (r : Renderer) : r.Unmoved r.close := by
  rcases halted : r.onTransport SoundBuffer.stop with ⟨answer, r'⟩
  rw [close, halted]
  exact (unmoved_onTransport halted).trans r'.unmoved_releaseBuffer

/-- A start leaves a flush alone. After it a stream is stopped only if it was so before, and the
start has failed. -/
theorem state_start (r : Renderer) (origin : Ticks) :
    (r.start origin).2.flushing = r.flushing
      ∧ ((r.start origin).2.state = .stopped
        ↔ r.state = .stopped ∧ (r.start origin).1 ≠ .ok ()) := by
  obtain ⟨state, flushing⟩ : (r.prepared origin).state = r.state
      ∧ (r.prepared origin).flushing = r.flushing := by
    rw [prepared_eq]
    exact ⟨rfl, rfl⟩
  rcases started : r.start origin with ⟨answer, r'⟩
  cases Started.of_start started with
  | running running => simp [running]
  | refused _ refused =>
    have same := unmoved_onTransport refused
    exact ⟨same.flushing_eq.trans flushing, by simp [same.state_eq, state]⟩
  | granted _ granted =>
    have same := unmoved_onTransport granted
    refine ⟨?_, ?_⟩
    · rw [← flushing, ← same.flushing_eq]
      unfold conclude
      split <;> rfl
    · unfold conclude
      split <;> simp [notify]

theorem state_stop (r : Renderer) : r.stop.state = .stopped ∧ r.stop.flushing = r.flushing := by
  unfold stop
  dsimp only
  have halted : (if r.state = .running then r.stopHardware else r).flushing = r.flushing := by
    split
    · exact r.unmoved_stopHardware.flushing_eq
    · rfl
  split <;> exact ⟨rfl, halted⟩

theorem state_pause (r : Renderer) :
    r.pause.2.state = .paused ∧ r.pause.2.flushing = r.flushing := by
  unfold pause
  split
  · next paused => exact ⟨paused, rfl⟩
  · exact ⟨rfl, rfl⟩
  · exact ⟨rfl, r.unmoved_stopHardware.flushing_eq⟩

theorem state_endFlush (r : Renderer) :
    r.endFlush.2.state = r.state ∧ r.endFlush.2.flushing = false := by
  cases connected : r.connection with
  | none =>
    rw [endFlush_of_none connected]
    exact ⟨rfl, rfl⟩
  | some c =>
    rw [endFlush_of_connection connected]
    exact ⟨rfl, rfl⟩

end Renderer

namespace Operation

variable {op : Operation}

/-- After a control operation a flush is under way if that has begun one, or has not ended the one
that was. -/
theorem flushing_apply (control : op.isControl = true) (r : Renderer) :
    (op.apply r).flushing = true ↔ op = beginFlush ∨ r.flushing = true ∧ op ≠ endFlush := by
  -- All but two of them leave a flush alone.
  have other {r' : Renderer} (same : r'.flushing = r.flushing)
      (neither : op ≠ beginFlush ∧ op ≠ endFlush) :
      r'.flushing = true ↔ op = beginFlush ∨ r.flushing = true ∧ op ≠ endFlush := by
    simp [same, neither]
  cases op with
  | screen | feed | markEnd | drain | finishEnd | disturb => cases control
  | beginFlush => exact ⟨fun _ => .inl rfl, fun _ => rfl⟩
  | endFlush => simp [apply, r.state_endFlush.2]
  | connect format => exact other (r.unmoved_connect format).flushing_eq (by simp)
  | disconnect => exact other r.unmoved_disconnect.flushing_eq (by simp)
  | pause => exact other r.state_pause.2 (by simp)
  | start origin => exact other (r.state_start origin).1 (by simp)
  | stop => exact other r.state_stop.2 (by simp)
  | setVolume volume => exact other (r.unmoved_setVolume volume).flushing_eq (by simp)
  | setPan pan => exact other (r.unmoved_setPan pan).flushing_eq (by simp)
  | close => exact other r.unmoved_close.flushing_eq (by simp)
  | _ => exact other rfl (by simp)

/-- After a control operation a stream is stopped if that has stopped it, or has not taken it out
of the stopped state. -/
theorem state_apply (control : op.isControl = true) (r : Renderer) :
    (op.apply r).state = .stopped ↔ op = stop ∨ r.state = .stopped ∧ ¬op.Revives r := by
  -- All but three of them leave the state alone.
  have other {r' : Renderer} (same : r'.state = r.state) (running : op ≠ stop)
      (inert : ¬op.Revives r) :
      r'.state = .stopped ↔ op = stop ∨ r.state = .stopped ∧ ¬op.Revives r := by
    simp [same, running, inert]
  cases op with
  | screen | feed | markEnd | drain | finishEnd | disturb => cases control
  | stop => exact ⟨fun _ => .inl rfl, fun _ => r.state_stop.1⟩
  | pause => simp [apply, r.state_pause.1, Revives]
  | start origin => simpa [apply, Revives] using (r.state_start origin).2
  | connect format => exact other (r.unmoved_connect format).state_eq (by simp) id
  | disconnect => exact other r.unmoved_disconnect.state_eq (by simp) id
  | endFlush => exact other r.state_endFlush.1 (by simp) id
  | setVolume volume => exact other (r.unmoved_setVolume volume).state_eq (by simp) id
  | setPan pan => exact other (r.unmoved_setPan pan).state_eq (by simp) id
  | close => exact other r.unmoved_close.state_eq (by simp) id
  | _ => exact other rfl (by simp) id

end Operation

/-! ### Levels -/

/-- What ends a wait while it holds: one operation raises it, and others may lower it again. -/
structure Level where
  Holds : Renderer → Prop
  raise : Operation
  Lowers : Operation → Renderer → Prop
  step {op : Operation} (control : op.isControl = true) (r : Renderer) :
    Holds (op.apply r) ↔ op = raise ∨ Holds r ∧ ¬Lowers op r

namespace Level

/-- That a flush is under way. -/
def flush : Level where
  Holds r := r.flushing = true
  raise := .beginFlush
  Lowers op _ := op = .endFlush
  step control r := Operation.flushing_apply control r

/-- That the stream is stopped. -/
def halt : Level where
  Holds r := r.state = .stopped
  raise := .stop
  Lowers := Operation.Revives
  step control r := Operation.state_apply control r

variable (level : Level)

/-- No operation of a row lowers the level. -/
def Lasts : List Operation → Renderer → Prop
  | [], _ => True
  | op :: ops, r => ¬level.Lowers op r ∧ Lasts ops (op.apply r)

/-- An operation of a row raises the level, and no later one lowers it again. -/
def Raised (ops : List Operation) (r : Renderer) : Prop :=
  ∃ before after, ops = before ++ level.raise :: after
    ∧ level.Lasts after (applyAll (before ++ [level.raise]) r)

/-- The level holds after a row: it was raised in it, or held before it, and was not lowered
again. -/
def Stands (ops : List Operation) (r : Renderer) : Prop :=
  level.Holds r ∧ level.Lasts ops r ∨ level.Raised ops r

variable {level}

theorem raised_cons {op : Operation} {ops : List Operation} {r : Renderer} :
    level.Raised (op :: ops) r
      ↔ op = level.raise ∧ level.Lasts ops (op.apply r) ∨ level.Raised ops (op.apply r) := by
  constructor
  · rintro ⟨_ | ⟨first, before⟩, after, row, lasts⟩
    · cases row
      exact .inl ⟨rfl, lasts⟩
    · cases row
      exact .inr ⟨before, after, rfl, lasts⟩
  · rintro (⟨rfl, lasts⟩ | ⟨before, after, rfl, lasts⟩)
    · exact ⟨[], ops, rfl, lasts⟩
    · exact ⟨op :: before, after, rfl, lasts⟩

/-- A level holds after a row of control operations exactly if it stands. -/
theorem holds_applyAll (level : Level) {ops : List Operation}
    (controls : ∀ op ∈ ops, op.isControl = true) (r : Renderer) :
    level.Holds (applyAll ops r) ↔ level.Stands ops r := by
  -- The first operation of the row raises the level for the rest of it, or leaves it as it is.
  induction ops generalizing r with
  | nil => simp [Stands, Lasts, Raised]
  | cons op ops ih =>
    rw [List.forall_mem_cons] at controls
    rw [applyAll_cons, ih controls.2, Stands, Stands, level.step controls.1, raised_cons, Lasts]
    constructor
    · rintro (⟨raised | ⟨held, stays⟩, lasts⟩ | raised)
      · exact .inr (.inl ⟨raised, lasts⟩)
      · exact .inl ⟨held, stays, lasts⟩
      · exact .inr (.inr raised)
    · rintro (⟨held, stays, lasts⟩ | ⟨raised, lasts⟩ | raised)
      · exact .inl ⟨.inr ⟨held, stays⟩, lasts⟩
      · exact .inl ⟨.inl raised, lasts⟩
      · exact .inr raised

/-- A flush lasts until it is ended, whatever else happens. -/
theorem lasts_flush {ops : List Operation} {r : Renderer} :
    flush.Lasts ops r ↔ .endFlush ∉ ops := by
  induction ops generalizing r with
  | nil => simp [Lasts]
  | cons op ops ih =>
    rw [Lasts, ih, List.mem_cons, not_or]
    exact and_congr_left' (not_congr eq_comm)

end Level

/-! ### Going on after a wait -/

/-- The control operations of a wait on `r` interrupt the call: they leave a flush under way or the
stream stopped. -/
def Interrupted (ops : List Operation) (r : Renderer) : Prop :=
  Level.flush.Stands ops r ∨ Level.halt.Stands ops r

namespace Renderer

variable {r r' : Renderer} {left left' : Feed} {schedule rest : Schedule}

/-- A call that was interrupted while it waited returns at once and changes nothing: as rendered in
the paused state, else as in the wrong state. Any other call feeds on. -/
theorem resume_after_controls {ops : List Operation}
    (controls : ∀ op ∈ ops, op.isControl = true) (r : Renderer) (left : Feed)
    (schedule : Schedule) :
    (Interrupted ops r → (applyAll ops r).resume (.receive left) schedule
        = (.returned (if (applyAll ops r).state = .paused then .ok (.receipt .rendered)
            else .error .wrongState), applyAll ops r, schedule))
      ∧ (¬Interrupted ops r → (applyAll ops r).resume (.receive left) schedule
        = (applyAll ops r).feedTurn left schedule) := by
  have wakes : Interrupted ops r
      ↔ (applyAll ops r).flushing = true ∨ (applyAll ops r).state = .stopped :=
    or_congr (Level.flush.holds_applyAll controls r).symm
      (Level.halt.holds_applyAll controls r).symm
  rw [wakes]
  unfold resume feedWake
  dsimp only
  constructor
  · intro interrupted
    rw [if_pos interrupted]
    by_cases paused : (applyAll ops r).state = .paused
    · rw [if_pos paused, if_pos paused]
    · rw [if_neg paused, if_neg paused]
  · intro free
    rw [if_neg free]

/-- A stream is stopped while a call waits, started again, and stopped for good. -/
theorem resume_after_two_stops :
    let ops := [.stop, .start 0, .setVolume (-600), .stop, .disconnect]
    (applyAll ops tenBytes).resume (.receive ⟨[1, 2, 3], none⟩) [[]]
      = (.returned (.error .wrongState), applyAll ops tenBytes, [[]]) :=
  (resume_after_controls (by decide) tenBytes _ _).1
    (.inr (.inr ⟨[.stop, .start 0, .setVolume (-600)], [.disconnect], rfl, id, trivial⟩))

/-- A call waits for the hardware. A flush that begins and ends meanwhile is lost on it, and so is
a stop if the stream starts again: it goes on to write its three bytes. -/
theorem goes_on_after_undone_interruption :
    ∃ r, tenBytes.receive { data := [1, 2, 3] } [[]]
        = (.waiting (.receive ⟨[1, 2, 3], none⟩), r, [])
      ∧ ∀ ops ∈ [[.beginFlush, .endFlush], [.stop, .start 0]], ∃ r',
        (applyAll ops r).resume (.receive ⟨[1, 2, 3], none⟩) [[.setCursor 0 3]]
            = (.returned (.ok (.receipt .rendered)), r', [])
          ∧ r'.tracker.map (·.ring.buffer.bytes)
            = some [0x80, 0x80, 0x80, 1, 2, 3, 0x80, 0x80, 0x80, 0x80] := by
  have waits : tenBytes.receive { data := [1, 2, 3] } [[]] = _ := feedTurn_of_wait rfl
  refine ⟨_, waits, ?_⟩
  -- Either row leaves a running stream on a silent ring.
  rintro ops (_ | ⟨_, _ | ⟨_, ⟨⟩⟩⟩)
  · refine ⟨_, (feedTurn_of_proceed rfl).trans (feedTurn_of_returned rfl), ?_⟩
    rfl
  · refine ⟨_, (feedTurn_of_proceed rfl).trans (feedTurn_of_returned rfl), ?_⟩
    rfl

end Renderer

end Playout
