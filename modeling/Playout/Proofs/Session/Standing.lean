import Playout.Proofs.Session.Passes

/-!
# What passes leave alone

The `Standing` of a renderer is the state of its stream, its levels, and how the buffers that it has
been given are set. Looking at the hardware, writing and silencing do not touch it, and nor does the
outside: it changes by control operations and by the screening of samples only
(`Operation.standing_apply`).
-/

namespace Playout

/-- How a buffer is set, apart from its bytes and its cursors. -/
structure Setting where
  playing : Bool
  /-- Frames per second. -/
  frequency : Nat
  volume : Int
  pan : Int
  deriving DecidableEq, Repr

/-! ### Buffers and rings -/

namespace SoundBuffer

def setting (b : SoundBuffer) : Setting where
  playing := b.playing
  frequency := b.frequency
  volume := b.volume
  pan := b.pan

@[simp] theorem setting_freeze (b : SoundBuffer) : b.freeze.setting = b.setting := by
  unfold freeze
  split <;> rfl

theorem setting_cursor (b : SoundBuffer) : b.cursor.2.setting = b.setting := by
  unfold cursor
  split <;> rfl

theorem setting_lock {b b' : SoundBuffer} {offset len : Nat}
    {granted : Except TransportError Segments} (locked : b.lock offset len = (granted, b')) :
    b'.setting = b.setting := by
  unfold lock at locked
  dsimp only at locked
  split at locked <;> (cases locked; rfl)

end SoundBuffer

namespace RingBuffer

theorem setting_write (r : RingBuffer) (offset : Nat) (data : List UInt8) :
    (r.write offset data).2.buffer.setting = r.buffer.setting := by
  unfold write
  dsimp only
  split
  · rfl
  split
  · next refused => exact SoundBuffer.setting_lock refused
  · next locked =>
    have kept := SoundBuffer.setting_lock locked
    split <;> exact kept

theorem setting_fillSilence (r : RingBuffer) (offset len : Nat) :
    (r.fillSilence offset len).2.buffer.setting = r.buffer.setting := by
  unfold fillSilence
  dsimp only
  split
  · rfl
  split
  · next refused => exact SoundBuffer.setting_lock refused
  · next locked =>
    have kept := SoundBuffer.setting_lock locked
    exact kept

theorem setting_clear (r : RingBuffer) : r.clear.2.buffer.setting = r.buffer.setting := by
  have filled := r.setting_fillSilence 0 r.size
  unfold clear
  split <;> (next answered => rw [answered] at filled; exact filled)

end RingBuffer

namespace PositionTracker

theorem setting_refresh (t : PositionTracker) (draining : Bool) :
    (t.refresh draining).2.ring.buffer.setting = t.ring.buffer.setting := by
  have read : t.ring.cursor.2.buffer.setting = t.ring.buffer.setting :=
    t.ring.buffer.setting_cursor
  unfold refresh
  split
  · next refused =>
    rw [refused] at read
    exact read
  next cursor ring answered =>
  rw [answered] at read
  split
  · exact read
  have filled := ring.setting_fillSilence t.lastPlay (distance t.lastPlay cursor.play t.size)
  dsimp only
  split <;> (next silenced => rw [silenced] at filled; exact filled.trans read)

theorem setting_commit (t : PositionTracker) (offset : Nat) (data : List UInt8) :
    (t.commit offset data).2.ring.buffer.setting = t.ring.buffer.setting := by
  have written := t.ring.setting_write offset data
  unfold commit
  split
  · next refused =>
    rw [refused] at written
    exact written
  · next granted =>
    rw [granted] at written
    split <;> exact written

theorem setting_clear (t : PositionTracker) :
    t.clear.2.ring.buffer.setting = t.ring.buffer.setting :=
  t.ring.setting_clear

end PositionTracker

/-! ### Renderers -/

/-- What of a renderer neither its passes nor the outside touch. -/
structure Standing where
  state : StreamState
  settled : Bool
  mediaTime : Option Ticks
  volume : Int
  pan : Int
  /-- The format of the connection, and how its buffer is set. -/
  connection : Option (WaveFormat × Setting)
  /-- How the buffer is set that was given back last. -/
  released : Option Setting
  deriving DecidableEq, Repr

/-- The format of a connection, and how its buffer is set. -/
def Connection.standing (c : Connection) : WaveFormat × Setting :=
  (c.format, c.tracker.ring.buffer.setting)

namespace Renderer

variable {r r' : Renderer} {c : Connection}

def standing (r : Renderer) : Standing where
  state := r.state
  settled := r.settled
  mediaTime := r.mediaTime
  volume := r.volume
  pan := r.pan
  connection := r.connection.map (·.standing)
  released := r.released.map (·.setting)

/-- What was asked of the buffer of a connection, it has answered. -/
theorem eq_of_onTransport {ask : SoundBuffer → Except TransportError Unit × SoundBuffer}
    {answer : Except TransportError Unit} (asked : r.onTransport ask = (answer, r')) :
    r' = { r with connection := r'.connection } := by
  rcases onTransport_inv asked with ⟨-, -, rfl⟩ | ⟨c, b, -, -, rfl⟩ <;> rfl

/-- A change of the format touches the connection, and the listener hears of it. -/
theorem eq_of_renegotiate {new : WaveFormat} {answer : Except RenderError Unit}
    (h : r.renegotiate new = (answer, r')) :
    r' = { r with connection := r'.connection, inbox := r'.inbox } := by
  cases Negotiated.of_renegotiate h with
  | disconnected | same | unfit | relabelled => rfl
  | refused _ _ _ asked | granted _ _ _ asked =>
    rw [eq_of_onTransport asked]
    rfl

theorem standing_setBuffer (connected : r.connection = some c) (b : SoundBuffer) :
    (r.setBuffer b).standing
      = { r.standing with connection := some (c.format, b.setting) } := by
  unfold standing setBuffer
  rw [connected]
  rfl

theorem standing_setTracker (connected : r.connection = some c) {t : PositionTracker}
    (same : t.ring.buffer.setting = c.tracker.ring.buffer.setting) :
    (r.setTracker t).standing = r.standing := by
  unfold standing setTracker
  rw [connected]
  dsimp only [Option.map_some, Connection.standing]
  rw [same]

/-! ### The outside -/

theorem standing_disturb (r : Renderer) (act : Disturbance) :
    (r.disturb act).standing = r.standing := by
  rcases r with ⟨_, _, _, _ | c, _, _, _, _, _, _, _, _, _, _, _, _, _, _ | b⟩ <;>
    cases act with
    | fail fault => cases fault <;> rfl
    | _ => rfl

theorem standing_disturbAll (r : Renderer) (acts : List Disturbance) :
    (r.disturbAll acts).standing = r.standing := by
  induction acts generalizing r with
  | nil => rfl
  | cons act acts ih => exact (ih _).trans (r.standing_disturb act)

theorem standing_atReading (r : Renderer) (acts : List Disturbance) :
    (r.atReading acts).standing = r.standing := by
  unfold atReading
  split
  · rfl
  · exact r.standing_disturbAll acts

/-! ### Passes -/

theorem standing_look {schedule rest : Schedule}
    {work : Connection → Except Failure α × PositionTracker} {answer : Except RenderError α}
    (works : ∀ c, (work c).2.ring.buffer.setting = c.tracker.ring.buffer.setting)
    (looked : r.look schedule work = (answer, r', rest)) :
    r'.standing = r.standing := by
  cases Looked.of_look looked with
  | unscheduled => rfl
  | disconnected acts => exact r.standing_atReading acts
  | failed acts c connected | found acts c connected =>
    exact (standing_setTracker connected (works c)).trans (r.standing_atReading acts)

theorem standing_planChunk {writeAt : Option Ticks} {schedule rest : Schedule}
    {chunk : Except RenderError (Option Chunk)}
    (planned : r.planChunk writeAt schedule = (chunk, r', rest)) :
    r'.standing = r.standing := by
  have works (timing : Option Timing) (c : Connection) :
      (r.planner.plan c.tracker c.format timing).2.ring.buffer.setting
        = c.tracker.ring.buffer.setting := by
    rw [refresh_of_plan]
    exact c.tracker.setting_refresh false
  cases Planned.of_planChunk planned with
  | overflow | disconnected => rfl
  | failed timed looked | found timed looked =>
    have kept := standing_look (works _) looked
    exact kept

theorem standing_writeChunk (r : Renderer) (data : List UInt8) (chunk : Chunk) :
    (r.writeChunk data chunk).2.standing = r.standing := by
  rcases written : r.writeChunk data chunk with ⟨outcome, r'⟩
  cases Written.of_writeChunk written with
  | stale | disconnected => rfl
  | refused c fresh connected answered | granted c fresh connected answered =>
    have same := c.tracker.setting_commit chunk.target ((data.drop chunk.skip).take chunk.free)
    rw [answered] at same
    exact standing_setTracker connected same

theorem standing_feedPass (r : Renderer) (left : Feed) (schedule : Schedule) :
    (r.feedPass left schedule).2.1.standing = r.standing := by
  by_cases idle : left.data.isEmpty ∨ r.state ≠ .running
  · obtain ⟨stats, counted⟩ := feedPass_of_idle idle schedule
    rw [counted]
    rfl
  rw [feedPass_of_not_idle idle]
  rcases planned : r.planChunk left.writeAt schedule with ⟨_ | _ | chunk, r', rest⟩
  all_goals have kept := standing_planChunk planned
  · exact kept
  · exact kept
  · exact (r'.standing_writeChunk left.data chunk).trans kept

theorem standing_drainPass (r : Renderer) (schedule : Schedule) :
    (r.drainPass schedule).2.1.standing = r.standing := by
  have works (c : Connection) := c.tracker.setting_refresh true
  rcases passed : r.drainPass schedule with ⟨outcome, r', rest⟩
  cases Drained.of_drainPass passed with
  | interrupted => rfl
  | failed _ looked | found _ looked =>
    have kept := standing_look works looked
    exact kept

theorem standing_finishEnd (r : Renderer) (drained : Bool) :
    (r.finishEnd drained).2.standing = r.standing := by
  have silenced {c : Connection} (connected : r.connection = some c)
      {answer : Except TransportError Unit} {ring : RingBuffer}
      (clears : c.tracker.ring.clear = (answer, ring)) :
      (r.setTracker { c.tracker with ring }).standing = r.standing := by
    have same := c.tracker.ring.setting_clear
    rw [clears] at same
    exact standing_setTracker connected same
  rcases finished : r.finishEnd drained with ⟨answer, r'⟩
  cases Finished.of_finishEnd finished with
  | disconnected => cases drained <;> rfl
  | refused c connected refused => exact silenced connected refused
  | cleared c connected cleared =>
    have kept := silenced connected cleared
    cases drained <;> exact kept

/-- Ending a flush forgets the time of the last sample. -/
theorem standing_endFlush (r : Renderer) :
    r.endFlush.2.standing = { r.standing with mediaTime := none } := by
  cases connected : r.connection with
  | none =>
    rw [endFlush_of_none connected]
    rfl
  | some c =>
    rw [endFlush_of_connection connected]
    exact standing_setTracker (r := r.reopen) connected c.tracker.setting_clear

end Renderer

namespace Operation

/-- Whether an operation is a pass, or one of the outside, or no business of the stream. -/
def leavesStanding : Operation → Bool
  | beginFlush | setManualClock _ | turnClock _ | advanceClock _ | dropClock | clearClock
  | useReferenceClock | listen | deafen | takeEvents | feed _ _ | drain _ | finishEnd _
  | disturb _ => true
  | _ => false

theorem standing_apply {op : Operation} (leaves : op.leavesStanding = true) (r : Renderer) :
    (op.apply r).standing = r.standing := by
  cases op with
  | feed left schedule => exact r.standing_feedPass left schedule
  | drain schedule => exact r.standing_drainPass schedule
  | finishEnd drained => exact r.standing_finishEnd drained
  | disturb act => exact r.standing_disturb act
  | connect | disconnect | pause | start | stop | endFlush | setVolume | setPan | close | screen
  | markEnd => cases leaves
  | _ => rfl

end Operation

end Playout
