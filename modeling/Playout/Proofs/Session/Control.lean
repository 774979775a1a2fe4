import Playout.Proofs.Session.Operation
import Playout.Proofs.Tracker.Effect

/-!
# Operations between passes, and the ring

What controls a renderer leaves the bytes of its ring alone (`Keeps`), and so do the screening of a
sample and the moves of the hardware. Three operations do not: giving the buffer back, which leaves
no ring, ending a flush or the stream, which silence it, and connecting a format, which brings in a
silent one.
-/

namespace Playout

/-! ### Buffers -/

/-- The same bytes, and the same answer to the next lock. -/
def SoundBuffer.Alike (b b' : SoundBuffer) : Prop :=
  b'.bytes = b.bytes ∧ b'.armed.lock = b.armed.lock

namespace SoundBuffer

theorem alike_refl (b : SoundBuffer) : b.Alike b := ⟨rfl, rfl⟩

theorem Alike.trans {b b' b'' : SoundBuffer} (first : b.Alike b') (second : b'.Alike b'') :
    b.Alike b'' :=
  ⟨second.1.trans first.1, second.2.trans first.2⟩

theorem alike_freeze (b : SoundBuffer) : b.Alike b.freeze := by
  unfold freeze
  split <;> exact ⟨rfl, rfl⟩

theorem alike_halt (b : SoundBuffer) : b.Alike b.halt := by
  unfold halt
  split
  · exact alike_freeze { b with playing := false }
  · exact b.alike_refl

theorem alike_play (b : SoundBuffer) (looping : Bool) : b.Alike (b.play looping).2 := by
  unfold play
  split
  · exact ⟨rfl, rfl⟩
  split <;> exact ⟨rfl, rfl⟩

theorem alike_stop (b : SoundBuffer) : b.Alike b.stop.2 := by
  unfold stop
  split
  · exact ⟨rfl, rfl⟩
  · exact b.alike_halt

theorem alike_setVolume (b : SoundBuffer) (volume : Int) : b.Alike (b.setVolume volume).2 := by
  unfold setVolume
  split <;> exact ⟨rfl, rfl⟩

theorem alike_setPan (b : SoundBuffer) (pan : Int) : b.Alike (b.setPan pan).2 := by
  unfold setPan
  split <;> exact ⟨rfl, rfl⟩

theorem alike_armLevel (b : SoundBuffer) (on : Bool) : b.Alike (b.armLevel on) := by
  unfold armLevel
  split <;> exact ⟨rfl, rfl⟩

theorem alike_setFrequency (b : SoundBuffer) (hz : Nat) : b.Alike (b.setFrequency hz).2 := by
  unfold setFrequency
  split
  · exact ⟨rfl, rfl⟩
  split
  · exact b.alike_refl
  split
  · exact b.alike_freeze
  · exact ⟨rfl, rfl⟩

end SoundBuffer

/-! ### Renderers -/

namespace Renderer

variable {r r' r'' : Renderer}

/-- The ring of the connection. -/
def ringView (r : Renderer) : Option RingView := r.tracker.map (·.view)

/-- The ring stays as it is. -/
structure Keeps (r r' : Renderer) : Prop where
  ringView_eq : r'.ringView = r.ringView

theorem keeps_refl (r : Renderer) : r.Keeps r := ⟨rfl⟩

theorem Keeps.trans (first : r.Keeps r') (second : r'.Keeps r'') : r.Keeps r'' :=
  ⟨second.1.trans first.1⟩

theorem isSome_ringView (r : Renderer) : r.ringView.isSome = r.connected := by
  unfold ringView tracker connected
  cases r.connection <;> rfl

theorem ringView_setTracker (r : Renderer) (t : PositionTracker) :
    (r.setTracker t).ringView = r.ringView.map fun _ => t.view := by
  unfold setTracker ringView tracker
  cases r.connection <;> rfl

theorem keeps_setTracker {t t' : PositionTracker} (connected : r.tracker = some t)
    (same : t'.view = t.view) :
    r.Keeps (r.setTracker t') where
  ringView_eq := by rw [ringView_setTracker, ringView, connected, Option.map_some, same]; rfl

theorem keeps_setBuffer {c : Connection} {b : SoundBuffer} (connected : r.connection = some c)
    (alike : c.tracker.ring.buffer.Alike b) :
    r.Keeps (r.setBuffer b) where
  ringView_eq := by
    simp only [ringView, tracker, setBuffer, connected, Option.map_some, PositionTracker.view,
      alike.1, alike.2]

theorem keeps_onTransport {ask : SoundBuffer → Except TransportError Unit × SoundBuffer}
    {answer : Except TransportError Unit} (alike : ∀ b : SoundBuffer, b.Alike (ask b).2)
    (h : r.onTransport ask = (answer, r')) :
    r.Keeps r' := by
  rcases onTransport_inv h with ⟨-, -, rfl⟩ | ⟨c, b, connected, asked, rfl⟩
  · exact r'.keeps_refl
  · have alike := alike c.tracker.ring.buffer
    rw [asked] at alike
    exact keeps_setBuffer connected alike

theorem keeps_stopHardware (r : Renderer) : r.Keeps r.stopHardware := by
  unfold stopHardware
  rcases stopped : r.onTransport SoundBuffer.stop with ⟨answer, r'⟩
  have first := keeps_onTransport SoundBuffer.alike_stop stopped
  dsimp only
  split
  · next t connected => exact first.trans (keeps_setTracker connected t.view_reset)
  · exact first

/-! ### Control operations -/

theorem keeps_conclude (r : Renderer) (complete : Bool) : r.Keeps (r.conclude complete) := by
  cases complete <;> exact ⟨rfl⟩

theorem keeps_pause (r : Renderer) : r.Keeps r.pause.2 := by
  unfold pause
  split
  · exact r.keeps_refl
  · exact ⟨rfl⟩
  · exact r.keeps_stopHardware.trans ⟨rfl⟩

theorem keeps_start (r : Renderer) (origin : Ticks) : r.Keeps (r.start origin).2 := by
  have prepared : r.Keeps (r.prepared origin) := by
    rw [prepared_eq]
    exact ⟨rfl⟩
  rcases started : r.start origin with ⟨answer, r'⟩
  cases Started.of_start started with
  | running => exact r.keeps_refl
  | refused _ refused =>
    exact prepared.trans (keeps_onTransport (fun b => b.alike_play true) refused)
  | @granted r₁ _ granted =>
    have played := prepared.trans (keeps_onTransport (fun b => b.alike_play true) granted)
    have running : r.Keeps { r₁ with state := .running } := played.trans ⟨rfl⟩
    exact running.trans (keeps_conclude _ _)

theorem keeps_stop (r : Renderer) : r.Keeps r.stop := by
  have halted : r.Keeps (if r.state = .running then r.stopHardware else r) := by
    split
    · exact r.keeps_stopHardware
    · exact r.keeps_refl
  unfold stop
  dsimp only
  split
  · exact halted.trans ⟨rfl⟩
  · exact halted.trans ⟨rfl⟩

theorem keeps_setVolume (r : Renderer) (volume : Int) : r.Keeps (r.setVolume volume).2 := by
  unfold setVolume
  dsimp only
  split
  · next changed =>
    exact (keeps_onTransport (fun b => b.alike_setVolume _) changed).trans ⟨rfl⟩
  · next refused => exact keeps_onTransport (fun b => b.alike_setVolume _) refused

theorem keeps_setPan (r : Renderer) (pan : Int) : r.Keeps (r.setPan pan).2 := by
  unfold setPan
  dsimp only
  split
  · next changed => exact (keeps_onTransport (fun b => b.alike_setPan _) changed).trans ⟨rfl⟩
  · next refused => exact keeps_onTransport (fun b => b.alike_setPan _) refused

theorem keeps_notify (r : Renderer) (event : RenderEvent) : r.Keeps (r.notify event) := ⟨rfl⟩

theorem keeps_adopt (r : Renderer) (new : WaveFormat) : r.Keeps (r.adopt new) :=
  ⟨by unfold ringView tracker adopt; cases r.connection <;> rfl⟩

theorem keeps_renegotiate {new : WaveFormat} {answer : Except RenderError Unit}
    (h : r.renegotiate new = (answer, r')) :
    r.Keeps r' := by
  cases Negotiated.of_renegotiate h with
  | disconnected | same => exact r.keeps_refl
  | unfit => exact r.keeps_notify _
  | relabelled => exact r.keeps_adopt new
  | refused _ _ _ refused =>
    exact (keeps_onTransport (fun b => b.alike_setFrequency _) refused).trans (keeps_notify _ _)
  | granted _ _ _ granted =>
    refine (keeps_onTransport (fun b => b.alike_setFrequency _) granted).trans ?_
    exact (keeps_notify _ _).trans (keeps_adopt _ new)

theorem keeps_take (r : Renderer) (s : MediaSample) : r.Keeps (r.take s).2 := by
  rw [take_eq]
  exact ⟨rfl⟩

theorem keeps_screen (r : Renderer) (s : MediaSample) : r.Keeps (r.screen s).2 := by
  rcases screened : r.screen s with ⟨answer, r'⟩
  cases Decided.of_screen screened with
  | declined | stopped | disconnected => exact r.keeps_refl
  | kept => exact r.keeps_take s
  | rejected _ _ _ rejected => exact keeps_renegotiate rejected
  | agreed _ _ _ _ agreed => exact (keeps_renegotiate agreed).trans (keeps_take _ s)

theorem keeps_disturb (r : Renderer) {act : Disturbance} (harmless : act.harmless = true) :
    r.Keeps (r.disturb act) := by
  cases act with
  | fill | failLock => cases harmless
  | fail fault on => rcases r with ⟨_, _, _, _ | c⟩ <;> cases fault <;> exact ⟨rfl⟩
  | _ => rcases r with ⟨_, _, _, _ | c⟩ <;> exact ⟨rfl⟩

theorem keeps_disturbAll (r : Renderer) {acts : List Disturbance}
    (harmless : acts.all Disturbance.harmless = true) :
    r.Keeps (r.disturbAll acts) := by
  induction acts generalizing r with
  | nil => exact r.keeps_refl
  | cons act acts ih =>
    rw [List.all_cons, Bool.and_eq_true] at harmless
    exact (r.keeps_disturb harmless.1).trans (ih _ harmless.2)

/-! ### Giving back and silencing -/

theorem ringView_releaseBuffer (r : Renderer) : r.releaseBuffer.ringView = none := by
  unfold releaseBuffer
  split
  · next disconnected => rw [ringView, tracker, disconnected]; rfl
  · rfl

theorem exists_of_ringView {v : RingView} (h : r.ringView = some v) :
    ∃ c, r.connection = some c ∧ c.tracker.view = v := by
  unfold ringView tracker at h
  rwa [Option.map_map, Option.map_eq_some_iff] at h

theorem tracker_of_connection {c : Connection} (h : r.connection = some c) :
    r.tracker = some c.tracker := by
  rw [tracker, h, Option.map_some]

theorem ringView_endFlush {v : RingView} (sound : v.Sound) (h : r.ringView = some v) :
    r.endFlush.2.ringView = some v.clear := by
  obtain ⟨c, connected, rfl⟩ := exists_of_ringView h
  rw [endFlush_of_connection connected, c.tracker.clear_eq sound]
  dsimp only
  rw [ringView_setTracker]
  exact congrArg (Option.map _) h

theorem ringView_finishEnd {v : RingView} (sound : v.Sound) (h : r.ringView = some v)
    (drained : Bool) :
    (r.finishEnd drained).2.ringView = some v.clear := by
  obtain ⟨c, connected, rfl⟩ := exists_of_ringView h
  have clears := RingBuffer.clear_eq sound.length_eq sound.pos sound.granting
  rcases finished : r.finishEnd drained with ⟨answer, r'⟩
  cases Finished.of_finishEnd finished with
  | disconnected disconnected => cases connected.symm.trans disconnected
  | refused c' connected' refused =>
    obtain rfl := Option.some.inj (connected.symm.trans connected')
    cases clears.symm.trans refused
  | cleared c' connected' cleared =>
    obtain rfl := Option.some.inj (connected.symm.trans connected')
    obtain ⟨-, rfl⟩ := Prod.mk.inj (clears.symm.trans cleared)
    rw [(keeps_conclude _ drained).ringView_eq]
    refine (r.ringView_setTracker _).trans ?_
    rw [h]
    rfl

theorem keeps_endFlush_of_none (disconnected : r.connection = none) : r.Keeps r.endFlush.2 := by
  rw [endFlush_of_none disconnected]
  exact ⟨rfl⟩

theorem keeps_finishEnd_of_none (disconnected : r.connection = none) (drained : Bool) :
    r.Keeps (r.finishEnd drained).2 := by
  rcases finished : r.finishEnd drained with ⟨answer, r'⟩
  cases Finished.of_finishEnd finished with
  | disconnected => exact r.keeps_conclude drained
  | refused c connected | cleared c connected => cases disconnected.symm.trans connected

/-! ### Connecting -/

/-- The buffer of a new connection, at the volume and balance set before, as far as it takes
them. -/
def adjusted (r : Renderer) (buffer : SoundBuffer) : SoundBuffer :=
  let loud := ((buffer.armLevel r.device.refuses.volume).setVolume r.volume).2
  ((loud.armLevel r.device.refuses.pan).setPan r.pan).2

theorem alike_adjusted (r : Renderer) (buffer : SoundBuffer) :
    buffer.Alike (r.adjusted buffer) :=
  ((buffer.alike_armLevel _).trans (SoundBuffer.alike_setVolume _ _)).trans
    ((SoundBuffer.alike_armLevel _ _).trans (SoundBuffer.alike_setPan _ _))

/-- The tracker of a new connection. -/
def freshTracker (r : Renderer) (format : WaveFormat) (buffer : SoundBuffer) : PositionTracker where
  ring :=
    { buffer := r.adjusted buffer
      size := r.config.bufferBytes format
      silence := format.silence }

/-- Connecting changes nothing, or brings in a buffer that the device has created. -/
theorem connect_inv {format : WaveFormat} {answer : Except RenderError Unit}
    (h : r.connect format = (answer, r')) :
    r' = r ∧ answer ≠ .ok ()
      ∨ (format.validate = .ok () ∧ r.state = .stopped ∧ r.connected = false ∧ answer = .ok ())
        ∧ ∃ buffer device, r.device.create (r.config.bufferBytes format) format
            = (.ok buffer, device)
          ∧ r' = { r with device, connection := some ⟨format, r.freshTracker format buffer⟩ } := by
  unfold connect at h
  dsimp only at h
  split at h
  · cases h
    exact .inl ⟨rfl, nofun⟩
  next valid =>
  split at h
  · cases h
    exact .inl ⟨rfl, nofun⟩
  next stopped =>
  split at h
  · cases h
    exact .inl ⟨rfl, nofun⟩
  next disconnected =>
  split at h
  · next refused =>
    cases h
    rw [VirtualDevice.create_eq_error refused]
    exact .inl ⟨rfl, nofun⟩
  · next buffer device created =>
    cases h
    exact .inr ⟨⟨valid, Decidable.not_not.1 stopped, Bool.eq_false_iff.2 disconnected, rfl⟩,
      buffer, device, created, rfl⟩

/-- The ring of a buffer that the device has just created is silent. -/
theorem view_freshTracker {format : WaveFormat} {buffer : SoundBuffer} {device : VirtualDevice}
    (created : r.device.create (r.config.bufferBytes format) format = (.ok buffer, device)) :
    (r.freshTracker format buffer).view = (r.freshTracker format buffer).view.clear
      ∧ (r.freshTracker format buffer).view.Sound := by
  obtain ⟨⟨pos, -⟩, rfl, -⟩ := VirtualDevice.create_eq_ok created
  have alike := r.alike_adjusted (r.device.fresh (r.config.bufferBytes format) format)
  have bytes := alike.1.trans
    (rfl : _ = List.replicate (r.config.bufferBytes format) format.silence)
  refine ⟨RingView.eq_clear bytes, pos, ?_, alike.2⟩
  exact (congrArg List.length bytes).trans List.length_replicate

/-- Connecting leaves the ring alone, or brings in the ring of a new buffer, which is silent. -/
theorem connect_cases (r : Renderer) (format : WaveFormat) :
    r.Keeps (r.connect format).2 ∨ r.ringView = none
      ∧ ∃ v, (r.connect format).2.ringView = some v ∧ v = v.clear ∧ v.Sound := by
  rcases h : r.connect format with ⟨answer, r'⟩
  rcases connect_inv h with ⟨rfl, -⟩ | ⟨⟨-, -, disconnected, -⟩, buffer, device, created, rfl⟩
  · exact .inl (keeps_refl _)
  refine .inr ⟨?_, _, rfl, view_freshTracker created⟩
  rw [← isSome_ringView] at disconnected
  exact Option.isNone_iff_eq_none.1 (by simpa using disconnected)

theorem disconnect_cases (r : Renderer) :
    r.disconnect.2 = r ∨ r.disconnect.2 = r.releaseBuffer := by
  unfold disconnect
  split
  · exact .inl rfl
  split
  · exact .inl rfl
  · exact .inr rfl

end Renderer

end Playout
