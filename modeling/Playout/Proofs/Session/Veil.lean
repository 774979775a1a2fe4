import Playout.Proofs.Session.Traffic

/-!
# What operations do not read

The origin of stream time is read by the plans of a running stream alone, and the level of the
interrupt by nothing: it only decides how long a call sleeps. `Renderer.veil` changes the two, and
commutes with every function that does not set the origin or lower the interrupt. What such a
function answers, and what it leaves otherwise, therefore does not depend on them.

## Design points

* **The level is changed by a function** that leaves a raised interrupt raised. The identity changes
  the origin alone; a constant makes the level disappear.
-/

namespace Playout.Renderer

/-- The renderer with another origin of stream time, and another level of the interrupt. -/
def veil (origin : Ticks) (level : Bool → Bool) (r : Renderer) : Renderer :=
  { r with streamStart := origin, interrupt := level r.interrupt }

variable {origin : Ticks} {level : Bool → Bool} (r : Renderer)

@[simp] theorem state_veil : (r.veil origin level).state = r.state := rfl

@[simp] theorem connection_veil : (r.veil origin level).connection = r.connection := rfl

@[simp] theorem connected_veil : (r.veil origin level).connected = r.connected := rfl

@[simp] theorem ended_veil : (r.veil origin level).ended = r.ended := rfl

@[simp] theorem flushing_veil : (r.veil origin level).flushing = r.flushing := rfl

@[simp] theorem clockTime_veil : (r.veil origin level).clockTime = r.clockTime := rfl

theorem onTransport_veil (ask : SoundBuffer → Except TransportError Unit × SoundBuffer) :
    (r.veil origin level).onTransport ask = (r.onTransport ask).map id (veil origin level) := by
  rcases r with ⟨_, _, _, _ | c⟩ <;> rfl

/-! ### Control operations -/

theorem connect_veil (format : WaveFormat) :
    (r.veil origin level).connect format
      = (r.connect format).map id (veil origin level) := by
  rcases r with ⟨config, device, _ | _ | _, _ | c⟩ <;>
    (rw [connect, connect]; cases format.validate <;> try rfl)
  -- A stopped stream without a connection: what is left is the answer of the device.
  simp only [veil, connected, ne_eq, not_true_eq_false, if_false, Option.isSome_none,
    Bool.false_eq_true]
  rcases device.create (config.bufferBytes format) format with ⟨_ | _, _⟩ <;> rfl

theorem disconnect_veil :
    (r.veil origin level).disconnect = r.disconnect.map id (veil origin level) := by
  rcases r with ⟨_, _, _ | _ | _, _ | c⟩ <;> rfl

theorem setVolume_veil (volume : Int) :
    (r.veil origin level).setVolume volume
      = (r.setVolume volume).map id (veil origin level) := by
  simp only [setVolume, onTransport_veil]
  rcases onTransport _ _ with ⟨_ | _, r'⟩ <;> rfl

theorem setPan_veil (pan : Int) :
    (r.veil origin level).setPan pan = (r.setPan pan).map id (veil origin level) := by
  simp only [setPan, onTransport_veil]
  rcases onTransport _ _ with ⟨_ | _, r'⟩ <;> rfl

theorem close_veil : (r.veil origin level).close = r.close.veil origin level := by
  rcases r with ⟨_, _, _, _ | c⟩ <;> rfl

theorem stop_veil (raised : level true = true) :
    (r.veil origin level).stop = r.stop.veil origin level := by
  rcases r with ⟨_, _, _ | _ | _, _ | c⟩ <;>
    simp [stop, veil, endStream, stopHardware, onTransport, setBuffer, setTracker, tracker, raised]

/-- A stream that does not run is prepared, and then the buffer is asked to play. -/
theorem start_of_idle {r : Renderer} (idle : r.state ≠ .running) (origin : Ticks) :
    r.start origin
      = match (r.prepared origin).onTransport (·.play true) with
        | (.error e, r) => (.error (.hardware e), r)
        | (.ok (), r) =>
          (.ok (), conclude { r with state := .running } (r.ended || !r.connected)) := by
  unfold start
  rw [if_neg idle]
  rfl

/-- Starts go alike if their preparations do. -/
theorem start_veil {r r' : Renderer} {origin' : Ticks} (idle : r.state ≠ .running)
    (idle' : r'.state ≠ .running)
    (alike : r'.prepared origin' = (r.prepared origin).veil origin' level) :
    r'.start origin' = (r.start origin).map id (veil origin' level) := by
  rw [start_of_idle idle, start_of_idle idle', alike, onTransport_veil]
  rcases (r.prepared origin).onTransport _ with ⟨e | _, r₁⟩
  · rfl
  · rcases r₁ with ⟨_, _, _, _ | c, _, _ | _⟩ <;> rfl

theorem disturb_veil (raised : level true = true) (act : Disturbance) :
    (r.veil origin level).disturb act = (r.disturb act).veil origin level := by
  rcases r with ⟨_, _, _, _ | c⟩ <;> cases act <;>
    first | rfl | simp [disturb, veil, beginFlush, setBuffer, raised]

theorem disturbAll_veil (raised : level true = true) (acts : List Disturbance) :
    (r.veil origin level).disturbAll acts = (r.disturbAll acts).veil origin level := by
  induction acts generalizing r with
  | nil => rfl
  | cons act acts ih =>
    exact (congrArg (·.disturbAll acts) (r.disturb_veil raised act)).trans (ih _)

/-! ### Screening -/

theorem renegotiate_veil (new : WaveFormat) :
    (r.veil origin level).renegotiate new
      = (r.renegotiate new).map id (veil origin level) := by
  rcases r with ⟨config, device, state, _ | c⟩
  · rfl
  simp only [renegotiate, connection_veil]
  by_cases same : c.format = new
  · simp [same]
  cases c.format.renegotiableTo new with
  | false =>
    simp only [same, if_false, Bool.not_false, if_true]
    rfl
  | true =>
    simp only [same, if_false, Bool.not_true, Bool.false_eq_true]
    cases new.validate with
    | error e => rfl
    | ok _ =>
      by_cases rate : c.format.sampleRate = new.sampleRate
      · simp only [rate, if_true]
        rfl
      · simp only [rate, if_false, onTransport_veil]
        rcases onTransport _ _ with ⟨_ | _, r'⟩ <;> rfl

theorem take_veil (s : MediaSample) :
    (r.veil origin level).take s = (r.take s).map id (veil origin level) := by
  unfold take
  rcases s with ⟨data, start, stop, _ | _, format⟩ <;>
    by_cases timed : r.clockTime.isSome ∧ start.isSome <;>
      by_cases paused : r.state = .paused <;>
        simp only [timed, paused, clockTime_veil, state_veil, and_self, if_true, if_false] <;> rfl

theorem screen_veil (s : MediaSample) :
    (r.veil origin level).screen s = (r.screen s).map id (veil origin level) := by
  simp only [screen, ended_veil, flushing_veil, state_veil, connected_veil]
  by_cases declined : (r.ended || r.flushing) = true
  · simp only [declined, if_true]
    rfl
  by_cases stopped : r.state = .stopped
  · simp only [declined, stopped, if_true]
    rfl
  by_cases disconnected : r.connected = false
  · simp only [declined, stopped, disconnected, Bool.not_false, if_true, if_false]
    rfl
  have connected : r.connected = true := by simpa using disconnected
  simp only [declined, stopped, connected, Bool.not_true, Bool.false_eq_true, if_false]
  cases s.format with
  | none =>
    simp only [take_veil]
    rfl
  | some new =>
    simp only [renegotiate_veil]
    rcases r.renegotiate new with ⟨e | _, r'⟩
    · rfl
    · simp only [Prod.map, id, take_veil]

/-! ### Passes -/

theorem atReading_veil (raised : level true = true) (acts : List Disturbance) :
    (r.veil origin level).atReading acts = (r.atReading acts).veil origin level := by
  rw [atReading, atReading, disturbAll_veil r raised]
  by_cases armed : r.cursorArmed = true
  · rw [if_pos armed, if_pos (show (r.veil origin level).cursorArmed = true from armed)]
  · rw [if_neg armed, if_neg (show ¬(r.veil origin level).cursorArmed = true from armed)]

theorem look_veil (raised : level true = true) (schedule : Schedule)
    (work : Connection → Except Failure α × PositionTracker) :
    (r.veil origin level).look schedule work
      = (r.look schedule work).map id (Prod.map (veil origin level) id) := by
  cases schedule with
  | nil => rfl
  | cons acts rest =>
    have reading : (r.veil origin level).atReading acts = (r.atReading acts).veil origin level :=
      r.atReading_veil raised acts
    cases connected : (r.atReading acts).connection with
    | none =>
      have connected' : ((r.veil origin level).atReading acts).connection = none := by
        simpa [reading]
      rw [look_of_none connected, look_of_none connected', reading]
      rfl
    | some c =>
      have connected' : ((r.veil origin level).atReading acts).connection = some c := by
        simpa [reading]
      rw [look_cons connected, look_cons connected', reading]
      rfl

/-- A plan reads the origin only for the stream time. -/
theorem planChunk_veil (raised : level true = true)
    (same : (r.veil origin level).streamTime = r.streamTime) (writeAt : Option Ticks)
    (schedule : Schedule) :
    (r.veil origin level).planChunk writeAt schedule
      = (r.planChunk writeAt schedule).map id (Prod.map (veil origin level) id) := by
  have timed : (r.veil origin level).timing writeAt = r.timing writeAt := by
    unfold timing
    rw [same]
  unfold planChunk
  rw [timed]
  rcases r.timing writeAt with fault | timing
  · rfl
  dsimp only [connected_veil]
  by_cases disconnected : r.connected = false
  · simp only [disconnected, Bool.not_false, if_true]
    rfl
  have connected : r.connected = true := by simpa using disconnected
  simp only [connected, Bool.not_true, Bool.false_eq_true, if_false, look_veil r raised,
    show (r.veil origin level).planner = r.planner from rfl]
  rcases r.look schedule _ with ⟨e | ⟨plan, positions⟩, r', rest⟩
  · rfl
  · cases plan <;> rfl

theorem writeChunk_veil (data : List UInt8) (chunk : Chunk) :
    (r.veil origin level).writeChunk data chunk
      = (r.writeChunk data chunk).map id (veil origin level) := by
  rw [writeChunk, writeChunk]
  by_cases stale : data.length ≤ chunk.skip
  · simp only [stale, if_true]
    rfl
  simp only [stale, if_false]
  rcases r with ⟨_, _, _, _ | c⟩
  · rfl
  · simp only [veil, tracker, Option.map_some]
    rcases c.tracker.commit _ _ with ⟨_ | _, t⟩ <;> rfl

/-- Only a running stream has its samples planned. -/
theorem feedPass_veil (raised : level true = true)
    (same : r.state = .running → (r.veil origin level).streamTime = r.streamTime) (left : Feed)
    (schedule : Schedule) :
    (r.veil origin level).feedPass left schedule
      = (r.feedPass left schedule).map id (Prod.map (veil origin level) id) := by
  simp only [feedPass, state_veil]
  by_cases idle : left.data.isEmpty = true ∨ r.state = .stopped
  · simp only [idle, if_true]
    rfl
  simp only [idle, if_false]
  by_cases running : r.state = .running
  · simp only [running, if_true, planChunk_veil r raised (same running)]
    rcases r.planChunk left.writeAt schedule with ⟨e | _ | chunk, r', rest⟩
    · rfl
    · rfl
    · simp only [Prod.map, id, writeChunk_veil]
  · simp only [running, if_false]
    rfl

theorem drainPass_veil (raised : level true = true) (schedule : Schedule) :
    (r.veil origin level).drainPass schedule
      = (r.drainPass schedule).map id (Prod.map (veil origin level) id) := by
  simp only [drainPass, state_veil, flushing_veil, connected_veil, look_veil r raised]
  by_cases interrupted : r.state ≠ .running ∨ r.flushing = true ∨ (!r.connected) = true
  · simp only [interrupted, if_true]
    rfl
  · simp only [interrupted, if_false]
    rcases r.look schedule _ with ⟨e | positions, r', rest⟩ <;> rfl

theorem finishEnd_veil (drained : Bool) :
    (r.veil origin level).finishEnd drained
      = (r.finishEnd drained).map id (veil origin level) := by
  rcases r with ⟨_, _, _, _ | c⟩
  · cases drained <;> rfl
  · simp only [finishEnd, veil, tracker, Option.map_some]
    rcases c.tracker.ring.clear with ⟨_ | _, ring⟩
    · rfl
    · cases drained <;> rfl

end Playout.Renderer
