import Playout.Renderer.Outside

/-!
# Feeding samples to the ring

A sample is screened, and then fed to the ring in passes. A pass of a running stream looks at the
hardware, plans, and writes what there is room for; where there is none, and while the stream is
paused, the call gives the renderer free and waits.

## Design points

* **A pass is a function.** `feedPass` goes from the moment the call holds the renderer to its
  return, to the next pass, or to its wait; `feedWake` is what a call does first when it holds the
  renderer again.
* **The outside is a parameter.** A `Schedule` lists, look by look, what the outside does between
  the reading of the clock and the reading of the cursors. Once it is used up the hardware no
  longer answers.
* **Only the first write of a sample is timed.** What follows goes where it ends.
-/

namespace Playout

/-- What the outside does before each of the coming looks at the hardware. -/
abbrev Schedule := List (List Disturbance)

/-- What is left to feed. -/
structure Feed where
  data : List UInt8
  /-- When its first byte is meant to be heard; known until the first write. -/
  writeAt : Option Ticks
  deriving DecidableEq, Repr

/-- A place on the ring for the next bytes. -/
structure Chunk where
  target : Nat
  free : Nat
  skip : Nat
  deriving DecidableEq, Repr

/-- How a pass ends. -/
inductive PassEnd
  | returned (result : Except RenderError Unit)
  /-- Another pass follows at once. -/
  | proceed (feed : Feed)
  /-- The call waits. -/
  | wait (feed : Feed)

namespace Renderer

/-! ### Admission -/

/-- Switches the stream to another format, if it differs in its rates alone and the device plays
at the new one. -/
def renegotiate (r : Renderer) (new : WaveFormat) : Except RenderError Unit × Renderer :=
  let rejected (r : Renderer) (reason : Rejection) : Except RenderError Unit × Renderer :=
    (.error (.typeRejected reason), r.notify (.formatRejected reason))
  match r.connection with
  | none => (.error .notConnected, r)
  | some c =>
    if c.format = new then (.ok (), r)
    else if !c.format.renegotiableTo new then rejected r (.incompatible c.format new)
    else
      match new.validate with
      | .error e => rejected r (.invalid e)
      | .ok () =>
        let adopt (r : Renderer) : Renderer :=
          { r with connection := r.connection.map ({ · with format := new }) }
        if c.format.sampleRate = new.sampleRate then (.ok (), adopt r)
        else
          match r.onTransport (·.setFrequency new.sampleRate) with
          | (.error e, r) => rejected r (.frequency e)
          | (.ok (), r) =>
            (.ok (), adopt (r.notify (.formatChanged c.format.sampleRate new.sampleRate)))

/-- What is decided about a sample before it is fed. -/
inductive Admission
  | done (receipt : Receipt)
  | feed (feed : Feed)

/-- Takes a sample of the current format: notes its time, settles a paused stream, counts it. -/
def take (r : Renderer) (s : MediaSample) : Admission × Renderer :=
  let r := if r.clockTime.isSome ∧ s.start.isSome then { r with mediaTime := s.start } else r
  let r := if r.state = .paused then { r with settled := true } else r
  let r := { r with stats := r.stats.recordSample s.preroll }
  (if s.preroll then .done .preroll else .feed { data := s.data, writeAt := s.start }, r)

/-- Decides about a sample. -/
def screen (r : Renderer) (s : MediaSample) : Except RenderError Admission × Renderer :=
  if r.ended || r.flushing then (.ok (.done .declined), r)
  else if r.state = .stopped then (.error .wrongState, r)
  else if !r.connected then (.error .notConnected, r)
  else
    match s.format with
    | none => let (admission, r) := r.take s; (.ok admission, r)
    | some new =>
      match r.renegotiate new with
      | (.error e, r) => (.error e, r)
      | (.ok (), r) => let (admission, r) := r.take s; (.ok admission, r)

/-! ### Passes -/

/-- Counts what a look at the hardware found. -/
def recordPositions (r : Renderer) (positions : Positions) : Renderer :=
  let stats := r.stats.addZeroed positions.zeroed
  { r with stats := if positions.underrun then stats.recordUnderrun else stats }

/-- Whether the next reading of the cursors is bound to fail. -/
def cursorArmed (r : Renderer) : Bool :=
  r.connection.any (·.tracker.ring.buffer.armed.cursor)

/-- The outside acts, then the tracker of the connection is put to work. A reading that is bound to
fail does so at once, before anything else can happen. -/
def look (r : Renderer) (schedule : Schedule)
    (work : Connection → Except Failure α × PositionTracker) :
    Except RenderError α × Renderer × Schedule :=
  match schedule with
  | [] => (.error (.hardware .cursorFailed), r, [])
  | acts :: schedule =>
    let r := if r.cursorArmed then r else r.disturbAll acts
    match r.connection with
    | none => (.error .notConnected, r, schedule)
    | some c =>
      match work c with
      | (.error e, t) => (.error (.ofFailure e), r.setTracker t, schedule)
      | (.ok a, t) => (.ok a, r.setTracker t, schedule)

/-- The present and the time that a sample is meant for, if there are both. -/
def timing (r : Renderer) (writeAt : Option Ticks) : Except Fault (Option Timing) := do
  match ← r.streamTime, writeAt with
  | some now, some writeAt => return some ⟨now, writeAt⟩
  | _, _ => return none

/-- Looks at the hardware and finds the place for the next bytes; none while writing has to wait.
The clock is read before the cursors. -/
def planChunk (r : Renderer) (writeAt : Option Ticks) (schedule : Schedule) :
    Except RenderError (Option Chunk) × Renderer × Schedule :=
  match r.timing writeAt with
  | .error fault => (.error (.fault fault), r, schedule)
  | .ok timing =>
    if !r.connected then (.error .notConnected, r, schedule)
    else
      match r.look schedule fun c => r.planner.plan c.tracker c.format timing with
      | (.error e, r, schedule) => (.error e, r, schedule)
      | (.ok (plan, positions), r, schedule) =>
        let r := r.recordPositions positions
        match plan with
        | .ready target free skip gap =>
          (.ok (some ⟨target, free, skip⟩), { r with stats := r.stats.addGap gap }, schedule)
        | .blocked _ => (.ok none, r, schedule)

/-- Writes at a place: drops what is stale of the sample, then writes what there is room for. -/
def writeChunk (r : Renderer) (data : List UInt8) (chunk : Chunk) : PassEnd × Renderer :=
  let r := { r with stats := r.stats.addSkipped (min chunk.skip data.length) }
  if data.length ≤ chunk.skip then (.returned (.ok ()), r)
  else
    let data := data.drop chunk.skip
    match r.tracker with
    | none => (.returned (.error .notConnected), r)
    | some t =>
      match t.commit chunk.target (data.take chunk.free) with
      | (.error e, t) => (.returned (.error (.hardware e)), r.setTracker t)
      | (.ok region, t) =>
        let r := { r.setTracker t with stats := r.stats.addWritten region.length }
        (.proceed { data := data.drop region.length, writeAt := none }, r)

/-- One pass of a call that holds the renderer. -/
def feedPass (r : Renderer) (feed : Feed) (schedule : Schedule) :
    PassEnd × Renderer × Schedule :=
  let wait (r : Renderer) (schedule : Schedule) : PassEnd × Renderer × Schedule :=
    (.wait feed, { r with stats := r.stats.recordBlocked }, schedule)
  if feed.data.isEmpty ∨ r.state = .stopped then (.returned (.ok ()), r, schedule)
  else if r.state = .running then
    match r.planChunk feed.writeAt schedule with
    | (.error e, r, schedule) => (.returned (.error e), r, schedule)
    | (.ok none, r, schedule) => wait r schedule
    | (.ok (some chunk), r, schedule) =>
      let (outcome, r) := r.writeChunk feed.data chunk
      (outcome, r, schedule)
  else wait r schedule

/-- What a call finds when it holds the renderer again after a wait: a flush or a stop ends it,
without an error only if the stream is paused. -/
def feedWake (r : Renderer) : Option (Except RenderError Unit) :=
  if r.flushing ∨ r.state = .stopped then
    some (if r.state = .paused then .ok () else .error .wrongState)
  else none

/-! ### The schedule is used up -/

theorem look_schedule (r : Renderer) (schedule : Schedule)
    (work : Connection → Except Failure α × PositionTracker) :
    (r.look schedule work).2.2 = schedule.tail := by
  unfold look
  split
  · rfl
  · dsimp only
    split
    · rfl
    · split <;> rfl

theorem look_nil_error (r : Renderer) (work : Connection → Except Failure α × PositionTracker) :
    (r.look [] work).1 = .error (.hardware .cursorFailed) := rfl

/-- A plan needs a look at the hardware. -/
theorem planChunk_shrinks {r r' : Renderer} {writeAt : Option Ticks} {schedule rest : Schedule}
    {chunk : Option Chunk} (h : r.planChunk writeAt schedule = (.ok chunk, r', rest)) :
    rest.length < schedule.length := by
  unfold planChunk at h
  split at h
  · cases h
  split at h
  · cases h
  split at h
  · cases h
  next answer r'' rest' looked =>
  have tail : rest' = schedule.tail := by
    have := congrArg (·.2.2) looked
    rw [look_schedule] at this
    exact this.symm
  have nonempty : schedule ≠ [] := by
    rintro rfl
    have := congrArg (·.1) looked
    rw [look_nil_error] at this
    cases this
  have shorter : rest'.length < schedule.length := by
    rw [tail, List.length_tail]
    have := List.length_pos_iff.2 nonempty
    omega
  split at h <;> (cases h; exact shorter)

/-- Only a pass that looked at the hardware is followed by another one at once. -/
theorem feedPass_shrinks {r r' : Renderer} {feed feed' : Feed} {schedule rest : Schedule}
    (h : r.feedPass feed schedule = (.proceed feed', r', rest)) :
    rest.length < schedule.length := by
  unfold feedPass at h
  dsimp only at h
  split at h
  · cases h
  split at h
  · split at h
    · cases h
    · cases h
    · next planned =>
      simp only [Prod.mk.injEq] at h
      obtain ⟨_, _, rfl⟩ := h
      exact planChunk_shrinks planned
  · cases h

end Renderer

end Playout
