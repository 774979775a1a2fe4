import Playout.Renderer.Drain

/-!
# How the parts of a call end

A start, the screening of a sample, a look at the hardware, a plan, a write at a place, a pass over
a draining ring and the end of the stream each end in a few ways. For each of them there is a
relation with a case for every way that it can end, with what is known then and with the renderer
that is left. What these parts keep is shown case by case, so that only this module goes by the
order in which the program decides.

A pass that feeds a sample has nothing to do now (`feedPass_idle_cases`), or is a plan and a write
(`feedPass_of_not_idle`). A sample that is taken, and a flush that ends, are put as equations.
-/

namespace Playout.Renderer

variable {r r' : Renderer} {schedule rest : Schedule}

/-! ### Asking the buffer -/

theorem onTransport_inv {ask : SoundBuffer → Except TransportError Unit × SoundBuffer}
    {answer : Except TransportError Unit} (asked : r.onTransport ask = (answer, r')) :
    r.connection = none ∧ answer = .ok () ∧ r' = r
      ∨ ∃ c b, r.connection = some c ∧ ask c.tracker.ring.buffer = (answer, b)
        ∧ r' = r.setBuffer b := by
  unfold onTransport at asked
  split at asked
  · next disconnected =>
    cases asked
    exact .inl ⟨disconnected, rfl, rfl⟩
  · next c connected =>
    cases asked
    exact .inr ⟨c, _, connected, rfl, rfl⟩

theorem onTransport_of_connection {c : Connection} (connected : r.connection = some c)
    {ask : SoundBuffer → Except TransportError Unit × SoundBuffer}
    {answer : Except TransportError Unit} (asked : r.onTransport ask = (answer, r')) :
    ∃ b, ask c.tracker.ring.buffer = (answer, b) ∧ r' = r.setBuffer b := by
  rcases onTransport_inv asked with ⟨disconnected, -, -⟩ | ⟨c', b, connected', answered, rfl⟩
  · cases connected.symm.trans disconnected
  · obtain rfl := Option.some.inj (connected.symm.trans connected')
    exact ⟨b, answered, rfl⟩

/-- The listener is told that the stream is complete, if it is. -/
def conclude (r : Renderer) (complete : Bool) : Renderer :=
  if complete then r.notify .complete else r

/-! ### Starting -/

/-- The stream before the buffer is asked to play. -/
def prepared (r : Renderer) (origin : Ticks) : Renderer :=
  { (if r.state = .stopped then r.beginStream else r) with streamStart := origin, settled := true }

theorem prepared_eq (r : Renderer) (origin : Ticks) :
    r.prepared origin = { r with
      streamStart := origin
      settled := true
      ended := if r.state = .stopped then false else r.ended
      interrupt := if r.state = .stopped then false else r.interrupt } := by
  unfold prepared
  split <;> rfl

/-- How a start ends. -/
inductive Started (r : Renderer) (origin : Ticks) : Except RenderError Unit → Renderer → Prop
  | running (running : r.state = .running) : Started r origin (.ok ()) r
  | refused {e : TransportError} {r' : Renderer} (idle : r.state ≠ .running)
      (refused : (r.prepared origin).onTransport (·.play true) = (.error e, r')) :
      Started r origin (.error (.hardware e)) r'
  | granted {r' : Renderer} (idle : r.state ≠ .running)
      (granted : (r.prepared origin).onTransport (·.play true) = (.ok (), r')) :
      Started r origin (.ok ())
        (conclude { r' with state := .running } (r'.ended || !r'.connected))

theorem Started.of_start {origin : Ticks} {answer : Except RenderError Unit}
    (started : r.start origin = (answer, r')) : r.Started origin answer r' := by
  unfold start at started
  split at started
  · next running =>
    cases started
    exact .running running
  next idle =>
  dsimp only at started
  split at started <;> cases started
  · next refused => exact .refused idle refused
  · next granted => exact .granted idle granted

/-! ### Changing the format -/

/-- The stream goes over to another format on the connection that it has. -/
def adopt (r : Renderer) (new : WaveFormat) : Renderer :=
  { r with connection := r.connection.map ({ · with format := new }) }

/-- The stream can be asked for a format that it does not have yet: one that differs from the
present one in its rates alone, and is an acceptable one. -/
structure Suits (r : Renderer) (c : Connection) (new : WaveFormat) : Prop where
  connected : r.connection = some c
  other : c.format ≠ new
  renegotiable : c.format.renegotiableTo new = true
  valid : new.validate = .ok ()

/-- How a change of the format ends. -/
inductive Negotiated (r : Renderer) (new : WaveFormat) : Except RenderError Unit → Renderer → Prop
  | disconnected (disconnected : r.connection = none) : Negotiated r new (.error .notConnected) r
  | same (c : Connection) (connected : r.connection = some c) (same : c.format = new) :
      Negotiated r new (.ok ()) r
  | unfit (c : Connection) (reason : Rejection) (connected : r.connection = some c)
      (other : c.format ≠ new) (unfit : ¬r.Suits c new) :
      Negotiated r new (.error (.typeRejected reason)) (r.notify (.formatRejected reason))
  | relabelled (c : Connection) (suits : r.Suits c new)
      (rate : c.format.sampleRate = new.sampleRate) : Negotiated r new (.ok ()) (r.adopt new)
  | refused {e : TransportError} {r' : Renderer} (c : Connection) (suits : r.Suits c new)
      (rate : c.format.sampleRate ≠ new.sampleRate)
      (refused : r.onTransport (·.setFrequency new.sampleRate) = (.error e, r')) :
      Negotiated r new (.error (.typeRejected (.frequency e)))
        (r'.notify (.formatRejected (.frequency e)))
  | granted {r' : Renderer} (c : Connection) (suits : r.Suits c new)
      (rate : c.format.sampleRate ≠ new.sampleRate)
      (granted : r.onTransport (·.setFrequency new.sampleRate) = (.ok (), r')) :
      Negotiated r new (.ok ())
        ((r'.notify (.formatChanged c.format.sampleRate new.sampleRate)).adopt new)

theorem Negotiated.of_renegotiate {new : WaveFormat} {answer : Except RenderError Unit}
    (changed : r.renegotiate new = (answer, r')) : r.Negotiated new answer r' := by
  unfold renegotiate at changed
  dsimp only at changed
  split at changed
  · next disconnected =>
    cases changed
    exact .disconnected disconnected
  next c connected =>
  split at changed
  · next same =>
    cases changed
    exact .same c connected same
  next other =>
  split at changed
  · next different =>
    cases changed
    exact .unfit c _ connected other fun suits => by simp [suits.renegotiable] at different
  next renegotiable =>
  split at changed
  · next invalid =>
    cases changed
    exact .unfit c _ connected other fun suits => by cases invalid.symm.trans suits.valid
  next valid =>
  have suits : r.Suits c new := ⟨connected, other, by simpa using renegotiable, valid⟩
  split at changed
  · next rate =>
    cases changed
    exact .relabelled c suits rate
  next rate =>
  split at changed <;> cases changed
  · next refused => exact .refused c suits rate refused
  · next granted => exact .granted c suits rate granted

/-! ### Screening -/

/-- A sample that is taken leaves its time, if there is a clock, settles a paused stream, and is
counted. -/
theorem take_eq (r : Renderer) (s : MediaSample) :
    (r.take s).2 = { r with
      mediaTime := if r.clockTime.isSome ∧ s.start.isSome then s.start else r.mediaTime
      settled := if r.state = .paused then true else r.settled
      stats := r.stats.recordSample s.preroll } := by
  unfold take
  by_cases timed : r.clockTime.isSome ∧ s.start.isSome <;> by_cases paused : r.state = .paused <;>
    simp only [timed, paused, if_true, if_false, and_self]

/-- How it is decided about a sample. -/
inductive Decided (r : Renderer) (s : MediaSample) : Except RenderError Admission → Renderer → Prop
  | declined (closed : (r.ended || r.flushing) = true) : Decided r s (.ok (.done .declined)) r
  | stopped (stopped : r.state = .stopped) : Decided r s (.error .wrongState) r
  | disconnected (disconnected : r.connection = none) : Decided r s (.error .notConnected) r
  | kept (connected : r.connection ≠ none) (going : r.state ≠ .stopped)
      (carried : s.format = none) :
      Decided r s (.ok (r.take s).1) (r.take s).2
  | rejected {e : RenderError} {r' : Renderer} (new : WaveFormat) (connected : r.connection ≠ none)
      (carried : s.format = some new) (rejected : r.renegotiate new = (.error e, r')) :
      Decided r s (.error e) r'
  | agreed {r' : Renderer} (new : WaveFormat) (connected : r.connection ≠ none)
      (going : r.state ≠ .stopped) (carried : s.format = some new)
      (agreed : r.renegotiate new = (.ok (), r')) :
      Decided r s (.ok (r'.take s).1) (r'.take s).2

theorem Decided.of_screen {s : MediaSample} {answer : Except RenderError Admission}
    (screened : r.screen s = (answer, r')) : r.Decided s answer r' := by
  unfold screen at screened
  split at screened
  · next closed =>
    cases screened
    exact .declined closed
  split at screened
  · next stopped =>
    cases screened
    exact .stopped stopped
  next going =>
  split at screened
  · next disconnected =>
    cases screened
    exact .disconnected (by simpa [connected] using disconnected)
  next there =>
  have connected : r.connection ≠ none := by
    intro disconnected
    simp [connected, disconnected] at there
  split at screened
  · next carried =>
    cases screened
    exact .kept connected going carried
  next new carried =>
  split at screened <;> cases screened
  · next rejected => exact .rejected new connected carried rejected
  · next agreed => exact .agreed new connected going carried agreed

/-! ### Looking -/

/-- The renderer when the cursors are read. -/
def atReading (r : Renderer) (acts : List Disturbance) : Renderer :=
  if r.cursorArmed then r else r.disturbAll acts

/-- A look that is scheduled puts the tracker to work once the outside has acted. -/
theorem look_cons {acts : List Disturbance} {c : Connection}
    (connected : (r.atReading acts).connection = some c) (rest : Schedule)
    (work : Connection → Except Failure α × PositionTracker) :
    r.look (acts :: rest) work
      = ((work c).1.mapError .ofFailure, (r.atReading acts).setTracker (work c).2, rest) := by
  unfold look
  dsimp only
  rw [show (if r.cursorArmed then r else r.disturbAll acts) = r.atReading acts from rfl,
    connected]
  dsimp only
  split <;> (next worked => rw [worked]; rfl)

theorem look_of_ok {acts : List Disturbance} {c : Connection}
    (connected : (r.atReading acts).connection = some c) {a : α} {t : PositionTracker}
    {work : Connection → Except Failure α × PositionTracker} (worked : work c = (.ok a, t))
    (rest : Schedule) :
    r.look (acts :: rest) work = (.ok a, (r.atReading acts).setTracker t, rest) := by
  rw [look_cons connected, worked]
  rfl

theorem look_of_none {acts : List Disturbance} (disconnected : (r.atReading acts).connection = none)
    (rest : Schedule) (work : Connection → Except Failure α × PositionTracker) :
    r.look (acts :: rest) work = (.error .notConnected, r.atReading acts, rest) := by
  unfold look
  dsimp only
  rw [show (if r.cursorArmed then r else r.disturbAll acts) = r.atReading acts from rfl,
    disconnected]

/-- How a look ends. -/
inductive Looked (r : Renderer) (work : Connection → Except Failure α × PositionTracker) :
    Schedule → Except RenderError α → Renderer → Schedule → Prop
  | unscheduled : Looked r work [] (.error (.hardware .cursorFailed)) r []
  | disconnected {rest : Schedule} (acts : List Disturbance)
      (disconnected : (r.atReading acts).connection = none) :
      Looked r work (acts :: rest) (.error .notConnected) (r.atReading acts) rest
  | failed {rest : Schedule} {failure : Failure} (acts : List Disturbance) (c : Connection)
      (connected : (r.atReading acts).connection = some c)
      (worked : (work c).1 = .error failure) :
      Looked r work (acts :: rest) (.error (.ofFailure failure))
        ((r.atReading acts).setTracker (work c).2) rest
  | found {rest : Schedule} {a : α} (acts : List Disturbance) (c : Connection)
      (connected : (r.atReading acts).connection = some c) (worked : (work c).1 = .ok a) :
      Looked r work (acts :: rest) (.ok a) ((r.atReading acts).setTracker (work c).2) rest

theorem Looked.of_look {work : Connection → Except Failure α × PositionTracker}
    {answer : Except RenderError α} (looked : r.look schedule work = (answer, r', rest)) :
    r.Looked work schedule answer r' rest := by
  cases schedule with
  | nil =>
    cases looked
    exact .unscheduled
  | cons acts later =>
    cases connected : (r.atReading acts).connection with
    | none =>
      cases (look_of_none connected later work).symm.trans looked
      exact .disconnected acts connected
    | some c =>
      rw [look_cons connected] at looked
      cases worked : (work c).1 <;> rw [worked] at looked <;> cases looked
      · exact .failed acts c connected worked
      · exact .found acts c connected worked

/-! ### Planning -/

/-- The place that a plan asks for; none while writing has to wait. -/
def placeOf : WritePlan → Option Chunk
  | .ready target free skip _ => some ⟨target, free, skip⟩
  | .blocked _ => none

/-- How a plan ends. Nothing is counted then as dropped or written. -/
inductive Planned (r : Renderer) (writeAt : Option Ticks) (schedule : Schedule) :
    Except RenderError (Option Chunk) → Renderer → Schedule → Prop
  | overflow {fault : Fault} (untimed : r.timing writeAt = .error fault) :
      Planned r writeAt schedule (.error (.fault fault)) r schedule
  | disconnected (disconnected : r.connection = none) :
      Planned r writeAt schedule (.error .notConnected) r schedule
  | failed {timing : Option Timing} {e : RenderError} {r' : Renderer} {rest : Schedule}
      (timed : r.timing writeAt = .ok timing)
      (looked : r.look schedule (fun c => r.planner.plan c.tracker c.format timing)
        = (.error e, r', rest)) :
      Planned r writeAt schedule (.error e) r' rest
  | found {timing : Option Timing} {plan : WritePlan} {positions : Positions} {r' : Renderer}
      {rest : Schedule} (timed : r.timing writeAt = .ok timing)
      (looked : r.look schedule (fun c => r.planner.plan c.tracker c.format timing)
        = (.ok (plan, positions), r', rest))
      (stats : RenderStats) (skipped : stats.skipped = r'.stats.skipped)
      (written : stats.written = r'.stats.written) :
      Planned r writeAt schedule (.ok (placeOf plan)) { r' with stats } rest

/-- A stream without a clock times no sample. -/
theorem timing_of_clockless (clockless : r.clockTime = none) (writeAt : Option Ticks) :
    r.timing writeAt = .ok none := by
  unfold timing streamTime
  rw [clockless]
  rfl

/-- A sample without a time has no timing. -/
theorem untimed_of_timing {timing : Option Timing} (timed : r.timing none = .ok timing) :
    timing = none := by
  obtain ⟨now, -, untimed⟩ := Ticks.bind_eq_ok.1 timed
  cases now <;> (cases untimed; rfl)

theorem Planned.of_planChunk {writeAt : Option Ticks} {chunk : Except RenderError (Option Chunk)}
    (planned : r.planChunk writeAt schedule = (chunk, r', rest)) :
    r.Planned writeAt schedule chunk r' rest := by
  unfold planChunk at planned
  split at planned
  · next untimed =>
    cases planned
    exact .overflow untimed
  next timing timed =>
  split at planned
  · next disconnected =>
    cases planned
    exact .disconnected (by simpa [connected] using disconnected)
  split at planned
  · next looked =>
    cases planned
    exact .failed timed looked
  next plan positions r₁ rest₁ looked =>
  have counted : (r₁.recordPositions positions).stats.skipped = r₁.stats.skipped
      ∧ (r₁.recordPositions positions).stats.written = r₁.stats.written := by
    unfold recordPositions
    dsimp only
    split <;> exact ⟨rfl, rfl⟩
  split at planned <;> cases planned <;> exact .found timed looked _ counted.1 counted.2

/-! ### Writing -/

/-- What is written of `data` at a place, and where; nothing if it is stale as a whole. -/
def placed (data : List UInt8) (chunk : Chunk) : Option (Nat × List UInt8) :=
  if data.length ≤ chunk.skip then none
  else some (chunk.target, (data.drop chunk.skip).take chunk.free)

theorem placed_inv {data : List UInt8} {chunk : Chunk} {written : Nat × List UInt8}
    (placed : placed data chunk = some written) :
    written = (chunk.target, (data.drop chunk.skip).take chunk.free) := by
  unfold Renderer.placed at placed
  split at placed <;> cases placed
  rfl

/-- How a write at a place ends. -/
inductive Written (r : Renderer) (data : List UInt8) (chunk : Chunk) : PassEnd → Renderer → Prop
  | stale (stale : data.length ≤ chunk.skip) :
      Written r data chunk (.returned (.ok ()))
        { r with stats := r.stats.addSkipped data.length }
  | disconnected (fresh : chunk.skip < data.length) (disconnected : r.connection = none) :
      Written r data chunk (.returned (.error .notConnected))
        { r with stats := r.stats.addSkipped chunk.skip }
  | refused {e : TransportError} {t : PositionTracker} (c : Connection)
      (fresh : chunk.skip < data.length) (connected : r.connection = some c)
      (refused : c.tracker.commit chunk.target ((data.drop chunk.skip).take chunk.free)
        = (.error e, t)) :
      Written r data chunk (.returned (.error (.hardware e)))
        { r.setTracker t with stats := r.stats.addSkipped chunk.skip }
  | granted {region : Segments} {t : PositionTracker} (c : Connection)
      (fresh : chunk.skip < data.length) (connected : r.connection = some c)
      (granted : c.tracker.commit chunk.target ((data.drop chunk.skip).take chunk.free)
        = (.ok region, t)) :
      Written r data chunk (.proceed ⟨(data.drop chunk.skip).drop region.length, none⟩)
        { r.setTracker t with
          stats := (r.stats.addSkipped chunk.skip).addWritten region.length }

theorem Written.of_writeChunk {data : List UInt8} {chunk : Chunk} {outcome : PassEnd}
    (written : r.writeChunk data chunk = (outcome, r')) : r.Written data chunk outcome r' := by
  unfold writeChunk at written
  dsimp only at written
  by_cases stale : data.length ≤ chunk.skip
  · rw [if_pos stale, Nat.min_eq_right stale] at written
    cases written
    exact .stale stale
  have fresh : chunk.skip < data.length := Nat.not_le.1 stale
  rw [if_neg stale, Nat.min_eq_left (Nat.le_of_lt fresh)] at written
  split at written
  · next untracked =>
    cases written
    exact .disconnected fresh (by simpa [tracker] using untracked)
  next t tracked =>
  obtain ⟨c, connected, rfl⟩ := Option.map_eq_some_iff.1 tracked
  split at written <;> cases written
  · next refused => exact .refused c fresh connected refused
  · next granted => exact .granted c fresh connected granted

/-! ### Feeding -/

/-- A pass that has nothing to do, or must not do it now, is done or waits. -/
theorem feedPass_idle_cases {left : Feed} (idle : left.data.isEmpty ∨ r.state ≠ .running)
    (schedule : Schedule) :
    (left.data.isEmpty ∨ r.state = .stopped)
        ∧ r.feedPass left schedule = (.returned (.ok ()), r, schedule)
      ∨ r.feedPass left schedule
        = (.wait left, { r with stats := r.stats.recordBlocked }, schedule) := by
  unfold feedPass
  dsimp only
  split
  · next ended => exact .inl ⟨ended, rfl⟩
  · next more =>
    rw [not_or] at more
    rw [if_neg (idle.resolve_left more.1)]
    exact .inr rfl

theorem feedPass_of_idle {left : Feed} (idle : left.data.isEmpty ∨ r.state ≠ .running)
    (schedule : Schedule) :
    ∃ stats, (r.feedPass left schedule).2.1 = { r with stats } := by
  rcases feedPass_idle_cases idle schedule with ⟨-, passed⟩ | passed <;> rw [passed]
  · exact ⟨r.stats, rfl⟩
  · exact ⟨r.stats.recordBlocked, rfl⟩

/-- Any other pass is a plan and, if there is a place, a write. -/
theorem feedPass_of_not_idle {left : Feed} (busy : ¬(left.data.isEmpty ∨ r.state ≠ .running))
    (schedule : Schedule) :
    r.feedPass left schedule
      = match r.planChunk left.writeAt schedule with
        | (.error e, r, rest) => (.returned (.error e), r, rest)
        | (.ok none, r, rest) => (.wait left, { r with stats := r.stats.recordBlocked }, rest)
        | (.ok (some chunk), r, rest) =>
          ((r.writeChunk left.data chunk).1, (r.writeChunk left.data chunk).2, rest) := by
  simp only [not_or, ne_eq, Decidable.not_not] at busy
  unfold feedPass
  dsimp only
  refine (if_neg (by simp [busy])).trans ((if_pos busy.2).trans ?_)
  rcases r.planChunk left.writeAt schedule with ⟨_ | _ | _, _, _⟩ <;> rfl

/-! ### Draining -/

/-- How a pass over a draining ring ends. -/
inductive Drained (r : Renderer) (schedule : Schedule) : DrainEnd → Renderer → Schedule → Prop
  | interrupted (idle : r.state ≠ .running ∨ r.flushing ∨ !r.connected) :
      Drained r schedule .interrupted r schedule
  | failed {e : RenderError} {r' : Renderer} {rest : Schedule}
      (busy : ¬(r.state ≠ .running ∨ r.flushing ∨ !r.connected))
      (looked : r.look schedule (fun c => c.tracker.updateDraining) = (.error e, r', rest)) :
      Drained r schedule (.failed e) r' rest
  | found {positions : Positions} {r' : Renderer} {rest : Schedule} {outcome : DrainEnd}
      (busy : ¬(r.state ≠ .running ∨ r.flushing ∨ !r.connected))
      (looked : r.look schedule (fun c => c.tracker.updateDraining) = (.ok positions, r', rest))
      (verdict : outcome = if positions.sequential = positions.minimum then .drained else .wait) :
      Drained r schedule outcome (r'.recordPositions positions) rest

theorem Drained.of_drainPass {outcome : DrainEnd}
    (passed : r.drainPass schedule = (outcome, r', rest)) : r.Drained schedule outcome r' rest := by
  unfold drainPass at passed
  split at passed
  · next idle =>
    cases passed
    exact .interrupted idle
  next busy =>
  split at passed <;> cases passed
  · next looked => exact .failed busy looked
  · next looked => exact .found busy looked rfl

/-! ### Silencing the ring -/

/-- The stream is open for samples. -/
def reopen (r : Renderer) : Renderer :=
  { r with flushing := false, ended := false, mediaTime := none, interrupt := false }

theorem endFlush_of_none (disconnected : r.connection = none) :
    r.endFlush = (.ok (), r.reopen) := by
  rcases r with ⟨_, _, _, _ | c⟩
  · rfl
  · cases disconnected

theorem endFlush_of_connection {c : Connection} (connected : r.connection = some c) :
    r.endFlush
      = (c.tracker.clear.1.mapError .hardware, r.reopen.setTracker c.tracker.clear.2) := by
  rcases r with ⟨_, _, _, _ | c'⟩ <;> cases connected
  simp only [endFlush, tracker, Option.map_some]
  rcases c.tracker.clear with ⟨_ | _, t⟩ <;> rfl

/-- How the end of the stream ends. -/
inductive Finished (r : Renderer) (drained : Bool) : Except RenderError Unit → Renderer → Prop
  | disconnected (disconnected : r.connection = none) :
      Finished r drained (.ok ()) (r.conclude drained)
  | refused {e : TransportError} {ring : RingBuffer} (c : Connection)
      (connected : r.connection = some c) (refused : c.tracker.ring.clear = (.error e, ring)) :
      Finished r drained (.error (.hardware e)) (r.setTracker { c.tracker with ring })
  | cleared {ring : RingBuffer} (c : Connection)
      (connected : r.connection = some c) (cleared : c.tracker.ring.clear = (.ok (), ring)) :
      Finished r drained (.ok ())
        (conclude { r.setTracker { c.tracker with ring } with
          stats := r.stats.addZeroed c.tracker.size } drained)

theorem Finished.of_finishEnd {drained : Bool} {answer : Except RenderError Unit}
    (finished : r.finishEnd drained = (answer, r')) : r.Finished drained answer r' := by
  unfold finishEnd at finished
  dsimp only at finished
  split at finished
  · next untracked =>
    cases finished
    exact .disconnected (by simpa [tracker] using untracked)
  next t tracked =>
  obtain ⟨c, connected, rfl⟩ := Option.map_eq_some_iff.1 tracked
  split at finished <;> cases finished
  · next refused => exact .refused c connected refused
  · next cleared => exact .cleared c connected cleared

end Playout.Renderer
