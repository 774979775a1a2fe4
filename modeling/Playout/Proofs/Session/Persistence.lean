import Playout.Proofs.Session.Control

/-!
# What lasts of a connection

Whatever happens outside the passes of a call, and whatever the hardware refuses meanwhile, a
connection stays the connection it was: its ring keeps its size and the play position last seen on
it, the write position is kept or unset, the format is kept or switched to another accepted one, and
the buffer goes on holding the ring, with its cursors on it. `Renderer.Persists` says so, and this
module shows it of every operation but connecting and the passes.

Unlike `Renderer.Keeps`, the relation says nothing about the bytes of the ring, so that it also
survives failures of the hardware and bytes that others write.
-/

namespace Playout

/-! ### Buffers that hold a ring -/

namespace SoundBuffer

/-- The buffer holds a ring of `n` bytes, and its cursors stand on it. -/
structure Spans (b : SoundBuffer) (n : Nat) : Prop where
  size_eq : b.size = n
  playAt_lt : b.playAt < n
  writeAt_lt : b.writeAt < n

variable {b : SoundBuffer} {n : Nat}

theorem Spans.position (spans : b.Spans n) : b.position.play < n ∧ b.position.write < n := by
  have pos : 0 < n := Nat.zero_lt_of_lt spans.playAt_lt
  unfold SoundBuffer.position
  rw [spans.size_eq]
  split
  · exact ⟨spans.playAt_lt, spans.writeAt_lt⟩
  split
  · exact ⟨Nat.mod_lt _ pos, Nat.mod_lt _ pos⟩
  · exact ⟨spans.playAt_lt, spans.playAt_lt⟩

theorem Spans.freeze (spans : b.Spans n) : b.freeze.Spans n := by
  have pos : 0 < n := Nat.zero_lt_of_lt spans.playAt_lt
  refine ⟨b.size_freeze.trans spans.size_eq, ?_, ?_⟩
  · unfold SoundBuffer.freeze
    split
    · rw [spans.size_eq]
      exact Nat.mod_lt _ pos
    · exact spans.playAt_lt
  · unfold SoundBuffer.freeze
    split <;> exact spans.writeAt_lt

theorem Spans.halt (spans : b.Spans n) : b.halt.Spans n := by
  have paused : { b with playing := false }.Spans n :=
    ⟨spans.size_eq, spans.playAt_lt, spans.writeAt_lt⟩
  unfold SoundBuffer.halt
  split
  · exact paused.freeze
  · exact spans

theorem Spans.play (spans : b.Spans n) (looping : Bool) : (b.play looping).2.Spans n := by
  obtain ⟨size, play, write⟩ := spans
  unfold SoundBuffer.play
  split
  · exact ⟨size, play, write⟩
  split <;> exact ⟨size, play, write⟩

theorem Spans.stop (spans : b.Spans n) : b.stop.2.Spans n := by
  unfold SoundBuffer.stop
  split
  · exact ⟨spans.size_eq, spans.playAt_lt, spans.writeAt_lt⟩
  · exact spans.halt

theorem Spans.armLevel (spans : b.Spans n) (on : Bool) : (b.armLevel on).Spans n := by
  unfold SoundBuffer.armLevel
  split <;> exact ⟨spans.1, spans.2, spans.3⟩

theorem Spans.setVolume (spans : b.Spans n) (volume : Int) : (b.setVolume volume).2.Spans n := by
  obtain ⟨size, play, write⟩ := spans
  unfold SoundBuffer.setVolume
  split <;> exact ⟨size, play, write⟩

theorem Spans.setPan (spans : b.Spans n) (pan : Int) : (b.setPan pan).2.Spans n := by
  obtain ⟨size, play, write⟩ := spans
  unfold SoundBuffer.setPan
  split <;> exact ⟨size, play, write⟩

theorem Spans.setFrequency (spans : b.Spans n) (hz : Nat) : (b.setFrequency hz).2.Spans n := by
  obtain ⟨frozen, playAt, writeAt⟩ := spans.freeze
  obtain ⟨size, play, write⟩ := spans
  unfold SoundBuffer.setFrequency
  split
  · exact ⟨size, play, write⟩
  split
  · exact ⟨size, play, write⟩
  split
  · exact ⟨frozen, playAt, writeAt⟩
  · exact ⟨size, play, write⟩

theorem Spans.onBuffer (spans : b.Spans n) (act : Disturbance) : (act.onBuffer b).Spans n := by
  have pos : 0 < n := Nat.zero_lt_of_lt spans.playAt_lt
  obtain ⟨size, play, write⟩ := spans
  cases act with
  | setCursor | advance =>
    refine ⟨size, ?_, ?_⟩ <;> (rw [← size] at pos ⊢; exact Nat.mod_lt _ pos)
  | fill => exact ⟨List.length_replicate.trans size, play, write⟩
  | _ => exact ⟨size, play, write⟩

/-- A lock grants a region of the buffer, or refuses; the ring is the same after it. -/
theorem Spans.lock (spans : b.Spans n) {offset len : Nat} {b' : SoundBuffer}
    {granted : Except TransportError Segments} (h : b.lock offset len = (granted, b')) :
    b'.Spans n ∧ ∀ region, granted = .ok region → region = split offset len n := by
  obtain ⟨size, play, write⟩ := spans
  unfold SoundBuffer.lock at h
  dsimp only at h
  split at h
  · cases h
    exact ⟨⟨size, play, write⟩, nofun⟩
  · cases h
    refine ⟨⟨size, play, write⟩, ?_⟩
    rintro _ ⟨⟩
    rw [size]

/-- What is put into a granted region stays on the ring. -/
theorem Spans.put (spans : b.Spans n) {offset len : Nat} {region : Segments}
    (granted : region = split offset len n) {head tail : List UInt8}
    (head_le : head.length ≤ region.head) (tail_le : tail.length ≤ region.tail) :
    (b.put region head tail).Spans n := by
  subst granted
  have pos : 0 < n := Nat.zero_lt_of_lt spans.playAt_lt
  have first := split_start_add_head_le pos offset len
  have second := split_tail_le_start offset len n
  have length_eq : b.bytes.length = n := spans.size_eq
  have written : (overwrite b.bytes (split offset len n).start head).length = n :=
    (length_overwrite (by omega)).trans length_eq
  exact ⟨(length_overwrite (by omega)).trans written, spans.playAt_lt, spans.writeAt_lt⟩

end SoundBuffer

namespace RingBuffer

variable {r : RingBuffer} {n : Nat}

theorem spans_fillSilence (spans : r.buffer.Spans n) (offset len : Nat) :
    (r.fillSilence offset len).2.buffer.Spans n := by
  unfold fillSilence
  dsimp only
  split
  · exact spans
  split
  · next refused => exact (spans.lock refused).1
  · next region buffer locked =>
    obtain ⟨spans', granted⟩ := spans.lock locked
    exact spans'.put (granted region rfl) (by simp) (by simp)

theorem spans_write (spans : r.buffer.Spans n) (offset : Nat) (data : List UInt8) :
    (r.write offset data).2.buffer.Spans n := by
  unfold write
  dsimp only
  split
  · exact spans
  split
  · next refused => exact (spans.lock refused).1
  · next region buffer locked =>
    obtain ⟨spans', granted⟩ := spans.lock locked
    split <;>
      exact spans'.put (granted region rfl) (List.length_take_le ..) (List.length_take_le ..)

theorem size_clear (r : RingBuffer) : r.clear.2.size = r.size := by
  have filled := r.size_fillSilence 0 r.size
  unfold clear
  split <;> (next filled' => rw [filled'] at filled; exact filled)

theorem spans_clear (spans : r.buffer.Spans n) : r.clear.2.buffer.Spans n := by
  have filled := spans_fillSilence spans 0 r.size
  unfold clear
  split <;> (next filled' => rw [filled'] at filled; exact filled)

end RingBuffer

/-! ### Connections -/

namespace WaveFormat

theorem renegotiableTo_refl (f : WaveFormat) : f.renegotiableTo f = true := by
  simp [renegotiableTo]

theorem renegotiableTo_trans {f g h : WaveFormat} (first : f.renegotiableTo g = true)
    (second : g.renegotiableTo h = true) :
    f.renegotiableTo h = true := by
  simp only [renegotiableTo, Bool.and_eq_true, beq_iff_eq] at *
  obtain ⟨⟨⟨⟨h1, h2⟩, h3⟩, h4⟩, h5⟩ := first
  rw [h1, h2, h3, h4, h5]
  exact second

end WaveFormat

/-- The connection goes on: on the same ring, with the same play position seen on it. -/
structure Connection.Persists (c c' : Connection) : Prop where
  size_eq : c'.tracker.size = c.tracker.size
  lastPlay_eq : c'.tracker.lastPlay = c.tracker.lastPlay
  writePos : c'.tracker.writePos = none ∨ c'.tracker.writePos = c.tracker.writePos
  renegotiable : c.format.renegotiableTo c'.format = true
  valid : c.format.validate = .ok () → c'.format.validate = .ok ()
  spans : ∀ {n}, c.tracker.ring.buffer.Spans n → c'.tracker.ring.buffer.Spans n

namespace Connection

variable {c c' c'' : Connection}

theorem persists_refl (c : Connection) : c.Persists c :=
  ⟨rfl, rfl, .inr rfl, WaveFormat.renegotiableTo_refl _, id, id⟩

theorem Persists.trans (first : c.Persists c') (second : c'.Persists c'') : c.Persists c'' where
  size_eq := second.size_eq.trans first.size_eq
  lastPlay_eq := second.lastPlay_eq.trans first.lastPlay_eq
  writePos := by
    rcases second.writePos with unset | kept
    · exact .inl unset
    · rw [kept]
      exact first.writePos
  renegotiable := WaveFormat.renegotiableTo_trans first.renegotiable second.renegotiable
  valid := second.valid ∘ first.valid
  spans := second.spans ∘ first.spans

/-- The connection with another state of its buffer. -/
def withBuffer (c : Connection) (b : SoundBuffer) : Connection :=
  { c with tracker := { c.tracker with ring := { c.tracker.ring with buffer := b } } }

theorem persists_withBuffer {b : SoundBuffer}
    (spans : ∀ {n}, c.tracker.ring.buffer.Spans n → b.Spans n) :
    c.Persists (c.withBuffer b) :=
  ⟨rfl, rfl, .inr rfl, WaveFormat.renegotiableTo_refl _, id, spans⟩

end Connection

/-! ### Renderers -/

namespace Renderer

/-- The settings and the memory of the device stay, and a connection, if there is one, is the one
from before. -/
structure Persists (r r' : Renderer) : Prop where
  config_eq : r'.config = r.config
  memory_eq : r'.device.memory = r.device.memory
  connection : ∀ c' ∈ r'.connection, ∃ c, r.connection = some c ∧ c.Persists c'

variable {r r' r'' : Renderer} {c : Connection}

theorem persists_of_eq (config : r'.config = r.config)
    (memory : r'.device.memory = r.device.memory) (connection : r'.connection = r.connection) :
    r.Persists r' :=
  ⟨config, memory, fun c' connected => ⟨c', connection.symm.trans connected, c'.persists_refl⟩⟩

theorem persists_refl (r : Renderer) : r.Persists r := persists_of_eq rfl rfl rfl

theorem Persists.trans (first : r.Persists r') (second : r'.Persists r'') : r.Persists r'' := by
  refine ⟨second.config_eq.trans first.config_eq, second.memory_eq.trans first.memory_eq,
    fun c'' connected => ?_⟩
  obtain ⟨c', connected', lasts'⟩ := second.connection c'' connected
  obtain ⟨c, connected, lasts⟩ := first.connection c' connected'
  exact ⟨c, connected, lasts.trans lasts'⟩

theorem persists_setBuffer (connected : r.connection = some c) {b : SoundBuffer}
    (spans : ∀ {n}, c.tracker.ring.buffer.Spans n → b.Spans n) :
    r.Persists (r.setBuffer b) := by
  refine ⟨rfl, rfl, fun c' connected' => ⟨c, connected, ?_⟩⟩
  rw [setBuffer, connected] at connected'
  obtain rfl := Option.some.inj connected'
  exact Connection.persists_withBuffer spans

theorem persists_onTransport {ask : SoundBuffer → Except TransportError Unit × SoundBuffer}
    (spans : ∀ {b : SoundBuffer} {n}, b.Spans n → (ask b).2.Spans n)
    {answer : Except TransportError Unit} (h : r.onTransport ask = (answer, r')) :
    r.Persists r' := by
  rcases onTransport_inv h with ⟨-, -, rfl⟩ | ⟨c, b, connected, asked, rfl⟩
  · exact r'.persists_refl
  · have spans {n} := spans (b := c.tracker.ring.buffer) (n := n)
    rw [asked] at spans
    exact persists_setBuffer connected spans

theorem connection_of_onTransport (connected : r.connection = some c)
    {ask : SoundBuffer → Except TransportError Unit × SoundBuffer}
    {answer : Except TransportError Unit} (h : r.onTransport ask = (answer, r')) :
    ∃ b, r'.connection = some (c.withBuffer b) := by
  obtain ⟨b, -, rfl⟩ := onTransport_of_connection connected h
  exact ⟨b, congrArg (Option.map _) connected⟩

/-- The tracker may lose its write position, and its buffer may go on. -/
theorem persists_setTracker {t t' : PositionTracker} (connected : r.tracker = some t)
    (size_eq : t'.size = t.size) (lastPlay_eq : t'.lastPlay = t.lastPlay)
    (writePos : t'.writePos = none ∨ t'.writePos = t.writePos)
    (spans : ∀ {n}, t.ring.buffer.Spans n → t'.ring.buffer.Spans n) :
    r.Persists (r.setTracker t') := by
  refine ⟨rfl, rfl, fun c' connected' => ?_⟩
  obtain ⟨c, connected'', rfl⟩ := Option.map_eq_some_iff.1 connected
  rw [setTracker, connected''] at connected'
  obtain rfl := Option.some.inj connected'
  exact ⟨c, connected'', size_eq, lastPlay_eq, writePos, WaveFormat.renegotiableTo_refl _, id,
    spans⟩

theorem persists_stopHardware (r : Renderer) : r.Persists r.stopHardware := by
  unfold stopHardware
  rcases stopped : r.onTransport SoundBuffer.stop with ⟨answer, r'⟩
  have first := persists_onTransport SoundBuffer.Spans.stop stopped
  dsimp only
  split
  · next t connected => exact first.trans (persists_setTracker connected rfl rfl (.inl rfl) id)
  · exact first

theorem persists_releaseBuffer (r : Renderer) : r.Persists r.releaseBuffer := by
  unfold releaseBuffer
  split
  · exact r.persists_refl
  · exact ⟨rfl, rfl, fun c' connected => absurd connected (Option.not_mem_none c')⟩

/-! ### Control operations -/

theorem persists_conclude (r : Renderer) (complete : Bool) :
    r.Persists (r.conclude complete) := by
  cases complete <;> exact persists_of_eq rfl rfl rfl

theorem persists_disconnect (r : Renderer) : r.Persists r.disconnect.2 := by
  rcases r.disconnect_cases with same | released
  · rw [same]
    exact r.persists_refl
  · rw [released]
    exact r.persists_releaseBuffer

theorem persists_close (r : Renderer) : r.Persists r.close := by
  rcases stopped : r.onTransport SoundBuffer.stop with ⟨answer, r'⟩
  rw [close, stopped]
  exact (persists_onTransport SoundBuffer.Spans.stop stopped).trans r'.persists_releaseBuffer

theorem persists_pause (r : Renderer) : r.Persists r.pause.2 := by
  unfold pause
  split
  · exact r.persists_refl
  · exact persists_of_eq rfl rfl rfl
  · exact r.persists_stopHardware.trans (persists_of_eq rfl rfl rfl)

theorem persists_start (r : Renderer) (origin : Ticks) : r.Persists (r.start origin).2 := by
  have prepared : r.Persists (r.prepared origin) := by
    rw [prepared_eq]
    exact persists_of_eq rfl rfl rfl
  rcases started : r.start origin with ⟨answer, r'⟩
  cases Started.of_start started with
  | running => exact r.persists_refl
  | refused _ refused => exact prepared.trans (persists_onTransport (·.play true) refused)
  | @granted r₁ _ granted =>
    have played := prepared.trans (persists_onTransport (·.play true) granted)
    have running : r.Persists { r₁ with state := .running } :=
      played.trans (persists_of_eq rfl rfl rfl)
    exact running.trans (persists_conclude _ _)

theorem persists_stop (r : Renderer) : r.Persists r.stop := by
  have halted : r.Persists (if r.state = .running then r.stopHardware else r) := by
    split
    · exact r.persists_stopHardware
    · exact r.persists_refl
  unfold stop
  dsimp only
  split <;> exact halted.trans (persists_of_eq rfl rfl rfl)

theorem persists_setVolume (r : Renderer) (volume : Int) :
    r.Persists (r.setVolume volume).2 := by
  unfold setVolume
  dsimp only
  split
  · next changed =>
    exact (persists_onTransport (·.setVolume _) changed).trans (persists_of_eq rfl rfl rfl)
  · next refused => exact persists_onTransport (·.setVolume _) refused

theorem persists_setPan (r : Renderer) (pan : Int) : r.Persists (r.setPan pan).2 := by
  unfold setPan
  dsimp only
  split
  · next changed =>
    exact (persists_onTransport (·.setPan _) changed).trans (persists_of_eq rfl rfl rfl)
  · next refused => exact persists_onTransport (·.setPan _) refused

theorem persists_endFlush (r : Renderer) : r.Persists r.endFlush.2 := by
  have reopened : r.Persists r.reopen := persists_of_eq rfl rfl rfl
  cases connected : r.connection with
  | none =>
    rw [endFlush_of_none connected]
    exact reopened
  | some c =>
    rw [endFlush_of_connection connected]
    exact reopened.trans (persists_setTracker (tracker_of_connection connected)
      c.tracker.ring.size_clear rfl (.inl rfl) RingBuffer.spans_clear)

/-! ### Screening -/

theorem persists_notify (r : Renderer) (event : RenderEvent) : r.Persists (r.notify event) :=
  persists_of_eq rfl rfl rfl

/-- A connection adopts an acceptable format that it may go over to. -/
theorem persists_adopt {new : WaveFormat} (connected : r.connection = some c)
    (renegotiable : c.format.renegotiableTo new = true) (valid : new.validate = .ok ()) :
    r.Persists (r.adopt new) := by
  refine ⟨rfl, rfl, fun c' connected' => ⟨c, connected, ?_⟩⟩
  rw [adopt, connected] at connected'
  obtain rfl := Option.some.inj connected'
  exact ⟨rfl, rfl, .inr rfl, renegotiable, fun _ => valid, id⟩

theorem persists_renegotiate {new : WaveFormat} {answer : Except RenderError Unit}
    (h : r.renegotiate new = (answer, r')) :
    r.Persists r' := by
  cases Negotiated.of_renegotiate h with
  | disconnected | same => exact r.persists_refl
  | unfit => exact r.persists_notify _
  | relabelled c suits =>
    exact persists_adopt suits.connected suits.renegotiable suits.valid
  | refused _ _ _ refused =>
    exact (persists_onTransport (·.setFrequency _) refused).trans (persists_notify _ _)
  | @granted r₁ c suits _ granted =>
    obtain ⟨b, connected⟩ := connection_of_onTransport suits.connected granted
    have adopted : (r₁.notify (.formatChanged c.format.sampleRate new.sampleRate)).Persists _ :=
      persists_adopt connected suits.renegotiable suits.valid
    refine (persists_onTransport (·.setFrequency _) granted).trans ?_
    exact (persists_notify _ _).trans adopted

theorem persists_take (r : Renderer) (s : MediaSample) : r.Persists (r.take s).2 := by
  rw [take_eq]
  exact persists_of_eq rfl rfl rfl

theorem persists_screen (r : Renderer) (s : MediaSample) : r.Persists (r.screen s).2 := by
  rcases screened : r.screen s with ⟨answer, r'⟩
  cases Decided.of_screen screened with
  | declined | stopped | disconnected => exact r.persists_refl
  | kept => exact r.persists_take s
  | rejected _ _ _ rejected => exact persists_renegotiate rejected
  | agreed _ _ _ _ agreed => exact (persists_renegotiate agreed).trans (persists_take _ s)

/-! ### The end of the stream, and the outside -/

theorem persists_finishEnd (r : Renderer) (drained : Bool) :
    r.Persists (r.finishEnd drained).2 := by
  -- The ring is as large as it was, whether it was silenced or not.
  have silenced {c : Connection} (connected : r.connection = some c)
      {answer : Except TransportError Unit} {ring : RingBuffer}
      (clears : c.tracker.ring.clear = (answer, ring)) :
      r.Persists (r.setTracker { c.tracker with ring }) := by
    have size_eq := c.tracker.ring.size_clear
    have spans {n} := c.tracker.ring.spans_clear (n := n)
    rw [clears] at size_eq spans
    exact persists_setTracker (tracker_of_connection connected) size_eq rfl (.inr rfl) spans
  rcases finished : r.finishEnd drained with ⟨answer, r'⟩
  cases Finished.of_finishEnd finished with
  | disconnected => exact r.persists_conclude drained
  | refused c connected refused => exact silenced connected refused
  | cleared c connected cleared =>
    refine (silenced connected cleared).trans
      ((persists_of_eq ?_ ?_ ?_).trans (persists_conclude _ _))
    all_goals rfl

theorem connection_disturb (connected : r.connection = some c) (act : Disturbance) :
    (r.disturb act).connection = some (c.withBuffer (act.onBuffer c.tracker.ring.buffer)) := by
  rcases r with ⟨_, _, _, _ | c₀⟩
  · cases connected
  obtain rfl : c₀ = c := Option.some.inj connected
  cases act <;> rfl

theorem persists_disturb (r : Renderer) (act : Disturbance) : r.Persists (r.disturb act) := by
  have settings : (r.disturb act).config = r.config
      ∧ (r.disturb act).device.memory = r.device.memory := by
    rcases r with ⟨_, _, _, _ | _⟩ <;> cases act <;> exact ⟨rfl, rfl⟩
  refine ⟨settings.1, settings.2, fun c' connected' => ?_⟩
  cases connected : r.connection with
  | none =>
    have disconnected : (r.disturb act).connection = none := by
      rcases r with ⟨_, _, _, _ | _⟩
      · cases act <;> rfl
      · cases connected
    cases disconnected.symm.trans connected'
  | some c =>
    obtain rfl := Option.some.inj ((connection_disturb connected act).symm.trans connected')
    exact ⟨c, rfl, Connection.persists_withBuffer (·.onBuffer act)⟩

theorem persists_disturbAll (r : Renderer) (acts : List Disturbance) :
    r.Persists (r.disturbAll acts) := by
  induction acts generalizing r with
  | nil => exact r.persists_refl
  | cons act acts ih => exact (r.persists_disturb act).trans (ih _)

end Renderer

/-! ### Operations -/

/-- Whether an operation neither brings in a connection nor makes a pass. -/
def Operation.isBetweenPasses : Operation → Bool
  | connect _ | feed _ _ | drain _ => false
  | _ => true

theorem Operation.persists_apply {op : Operation} (between : op.isBetweenPasses = true)
    (r : Renderer) :
    r.Persists (op.apply r) := by
  cases op with
  | connect | feed | drain => cases between
  | disconnect => exact r.persists_disconnect
  | pause => exact r.persists_pause
  | start origin => exact r.persists_start origin
  | stop => exact r.persists_stop
  | endFlush => exact r.persists_endFlush
  | setVolume volume => exact r.persists_setVolume volume
  | setPan pan => exact r.persists_setPan pan
  | close => exact r.persists_close
  | screen sample => exact r.persists_screen sample
  | finishEnd drained => exact r.persists_finishEnd drained
  | disturb act => exact r.persists_disturb act
  | _ => exact Renderer.persists_of_eq rfl rfl rfl

end Playout
