import Playout.Proofs.Session.Geometry
import Playout.Proofs.Session.Standing

/-!
# Renderer and device agree

Whether the stream plays, at which rate, how loud and how balanced is kept twice: by the renderer,
and by the buffer that it has been given. `Renderer.Accord` says that the two agree. They do so
after all operations, whatever the hardware refuses, with two exceptions:

* a running stream that is paused or stopped goes over to the new state also if its buffer refuses
  to stop (`Operation.FailsToStop`), and then the buffer plays on;
* a new buffer that refuses its volume or its balance while it is being connected keeps the zero
  that it has, and the renderer what it had, until that level is set again
  (`Operation.denied`, `keeps_zero_of_refused_level`).

## Design points

* **Each order is right in its place.** A level or a rate is set at the device first, and kept only
  if that succeeds. The state is set after the device was asked, but on the way to rest it is set in
  any case.
* **The refused levels come with the history.** Neither the renderer nor the buffer knows that a
  level was refused; `Obeyed` counts them along, operation by operation.
-/

namespace Playout

open Operation (applyAll)

/-! ### What a buffer makes of a request -/

namespace SoundBuffer

/-- A request changes the setting of a buffer in this way if it is granted, else not at all. -/
def Requests (ask : SoundBuffer → Except TransportError Unit × SoundBuffer)
    (change : Setting → Setting) : Prop :=
  ∀ b b' answer, ask b = (answer, b') →
    b'.setting = match answer with
      | .ok () => change b.setting
      | .error _ => b.setting

theorem requests_play (looping : Bool) :
    Requests (·.play looping) ({ · with playing := true }) := by
  intro b b' answer asked
  dsimp only at asked
  unfold play at asked
  split at asked
  · cases asked
    rfl
  split at asked
  · next playing =>
    cases asked
    exact congrArg (Setting.mk · _ _ _) playing
  · cases asked
    rfl

theorem setting_halt (b : SoundBuffer) : b.halt.setting = { b.setting with playing := false } := by
  unfold halt
  split
  · exact setting_freeze _
  · next silent => exact congrArg (Setting.mk · _ _ _) (by simpa using silent)

theorem requests_stop : Requests SoundBuffer.stop ({ · with playing := false }) := by
  intro b b' answer asked
  unfold stop at asked
  split at asked
  · cases asked
    rfl
  · cases asked
    exact b.setting_halt

theorem requests_setVolume (volume : Int) :
    Requests (·.setVolume volume) ({ · with volume }) := by
  intro b b' answer asked
  dsimp only at asked
  unfold setVolume at asked
  split at asked <;> (cases asked; rfl)

theorem requests_setPan (pan : Int) : Requests (·.setPan pan) ({ · with pan }) := by
  intro b b' answer asked
  dsimp only at asked
  unfold setPan at asked
  split at asked <;> (cases asked; rfl)

theorem requests_setFrequency (hz : Nat) :
    Requests (·.setFrequency hz) ({ · with frequency := hz }) := by
  intro b b' answer asked
  dsimp only at asked
  unfold setFrequency at asked
  split at asked
  · cases asked
    rfl
  split at asked
  · cases asked
    rfl
  split at asked
  · cases asked
    exact congrArg (fun s : Setting => { s with frequency := hz }) b.setting_freeze
  · cases asked
    rfl

end SoundBuffer

/-! ### Standings in accord -/

namespace Standing

/-- How a buffer for this format is to be set that was denied these levels. -/
def wanted (s : Standing) (denied : Levels) (f : WaveFormat) : Setting where
  playing := s.state = .running
  frequency := f.sampleRate
  volume := if denied.volume then 0 else s.volume
  pan := if denied.pan then 0 else s.pan

/-- The buffer of a connection is set as the renderer has it, but for the levels that it was denied,
and a buffer that was given back does not play. -/
structure Accord (s : Standing) (denied : Levels) : Prop where
  volume_mem : volumeRange.1 ≤ s.volume ∧ s.volume ≤ volumeRange.2
  pan_mem : panRange.1 ≤ s.pan ∧ s.pan ≤ panRange.2
  set : ∀ f setting, s.connection = some (f, setting) → setting = s.wanted denied f
  silent : ∀ setting ∈ s.released, setting.playing = false

variable {s s' : Standing} {denied denied' : Levels}

/-- What the renderer has and the setting of the buffer change in step. -/
theorem Accord.change (accord : s.Accord denied) {change : Setting → Setting}
    (connection : s'.connection = s.connection.map (Prod.map id change))
    (wanted : ∀ f, change (s.wanted denied f) = s'.wanted denied' f)
    (volume_mem : volumeRange.1 ≤ s'.volume ∧ s'.volume ≤ volumeRange.2)
    (pan_mem : panRange.1 ≤ s'.pan ∧ s'.pan ≤ panRange.2)
    (released : s'.released = s.released) :
    s'.Accord denied' where
  volume_mem := volume_mem
  pan_mem := pan_mem
  set f setting there := by
    rw [connection, Option.map_eq_some_iff] at there
    obtain ⟨⟨f', before⟩, there, same⟩ := there
    cases same
    rw [accord.set _ _ there]
    exact wanted _
  silent := released ▸ accord.silent

/-- Whether a stream has settled, and its time, are no business of the device. -/
theorem Accord.aside (accord : s.Accord denied) (settled : Bool) (time : Option Ticks) :
    { s with settled, mediaTime := time }.Accord denied :=
  ⟨accord.volume_mem, accord.pan_mem, accord.set, accord.silent⟩

/-- A stream that goes over from one state of rest to another. -/
theorem Accord.rest (accord : s.Accord denied) (idle : s.state ≠ .running) {state : StreamState}
    (idle' : state ≠ .running) :
    { s with state }.Accord denied := by
  have unchanged : s.connection = s.connection.map (Prod.map id id) := by simp
  refine accord.change unchanged (fun f => ?_) accord.volume_mem accord.pan_mem rfl
  simp [wanted, idle, idle']

/-- Without a connection there is nothing but the levels to agree on. -/
theorem Accord.release (accord : s.Accord denied)
    (volume : s'.volume = s.volume) (pan : s'.pan = s.pan) (connection : s'.connection = none)
    (silent : ∀ setting ∈ s'.released, setting.playing = false) :
    s'.Accord denied where
  volume_mem := volume ▸ accord.volume_mem
  pan_mem := pan ▸ accord.pan_mem
  set f setting there := by cases connection.symm.trans there
  silent := silent

/-- A new format is adopted with its rate. -/
theorem Accord.adopt (accord : s.Accord denied) {f : WaveFormat} {setting : Setting}
    (connection : s.connection = some (f, setting)) (new : WaveFormat) :
    { s with connection := some (new, { setting with frequency := new.sampleRate }) }.Accord
      denied := by
  refine ⟨accord.volume_mem, accord.pan_mem, ?_, accord.silent⟩
  rintro _ _ ⟨⟩
  rw [accord.set f setting connection]
  rfl

end Standing

/-! ### Refused levels -/

/-- The levels that the connected buffer was denied while it was being connected, and was not set to
since. -/
def Operation.denied (op : Operation) (r : Renderer) (denied : Levels) : Levels :=
  match op with
  | connect format => if (r.connect format).1.isOk then r.device.refuses else denied
  | setVolume volume =>
    if (r.setVolume volume).1.isOk then { denied with volume := false } else denied
  | setPan pan => if (r.setPan pan).1.isOk then { denied with pan := false } else denied
  | _ => denied

/-! ### Renderers in accord -/

namespace Renderer

variable {r r' : Renderer} {denied denied' : Levels}

/-- The device does as the renderer says, but for the levels that it was denied. -/
def Accord (r : Renderer) (denied : Levels) : Prop := r.standing.Accord denied

section

variable {ask : SoundBuffer → Except TransportError Unit × SoundBuffer} {change : Setting → Setting}

/-- A request that is granted changes how the connected buffer is set, and nothing else. -/
theorem standing_of_granted (requests : SoundBuffer.Requests ask change)
    (asked : r.onTransport ask = (.ok (), r')) :
    r'.standing = { r.standing with
      connection := r.standing.connection.map (Prod.map id change) } := by
  rcases onTransport_inv asked with ⟨disconnected, -, rfl⟩ | ⟨c, b, connected, answered, rfl⟩
  · unfold standing
    rw [disconnected]
    rfl
  · have known : r.standing.connection = some c.standing := congrArg (Option.map _) connected
    rw [standing_setBuffer connected, requests _ _ _ answered, known]
    rfl

/-- A request that is refused changes nothing. -/
theorem standing_of_refused (requests : SoundBuffer.Requests ask change) {e : TransportError}
    (asked : r.onTransport ask = (.error e, r')) :
    r'.standing = r.standing := by
  rcases onTransport_inv asked with ⟨-, ⟨⟩, -⟩ | ⟨c, b, connected, answered, rfl⟩
  have known : r.standing.connection = some c.standing := congrArg (Option.map _) connected
  rw [standing_setBuffer connected, requests _ _ _ answered]
  exact congrArg (fun x => { r.standing with connection := x }) known.symm

end

theorem Accord.of_standing (accord : r.Accord denied) (same : r'.standing = r.standing) :
    r'.Accord denied := by
  rw [Accord, same]
  exact accord

/-! ### Levels -/

theorem Accord.setVolume (accord : r.Accord denied) (volume : Int) :
    (r.setVolume volume).2.Accord ((Operation.setVolume volume).denied r denied) := by
  rcases asked : r.onTransport (·.setVolume (clampTo volumeRange volume)) with ⟨e | ⟨⟩, r'⟩
  · have refused : r.setVolume volume = (.error (.hardware e), r') := by
      rw [Renderer.setVolume, asked]
    rw [Operation.denied, refused]
    exact accord.of_standing (standing_of_refused (SoundBuffer.requests_setVolume _) asked)
  · have granted : r.setVolume volume
        = (.ok (), { r' with volume := clampTo volumeRange volume }) := by
      rw [Renderer.setVolume, asked]
    have changed := standing_of_granted (SoundBuffer.requests_setVolume _) asked
    have kept : standing { r' with volume := clampTo volumeRange volume } = _ :=
      congrArg (fun s : Standing => { s with volume := clampTo volumeRange volume }) changed
    rw [Operation.denied, granted, Accord, kept]
    exact Standing.Accord.change accord rfl (fun _ => rfl) (clampTo_mem (by decide) volume)
      accord.pan_mem rfl

theorem Accord.setPan (accord : r.Accord denied) (pan : Int) :
    (r.setPan pan).2.Accord ((Operation.setPan pan).denied r denied) := by
  rcases asked : r.onTransport (·.setPan (clampTo panRange pan)) with ⟨e | ⟨⟩, r'⟩
  · have refused : r.setPan pan = (.error (.hardware e), r') := by
      rw [Renderer.setPan, asked]
    rw [Operation.denied, refused]
    exact accord.of_standing (standing_of_refused (SoundBuffer.requests_setPan _) asked)
  · have granted : r.setPan pan = (.ok (), { r' with pan := clampTo panRange pan }) := by
      rw [Renderer.setPan, asked]
    have changed := standing_of_granted (SoundBuffer.requests_setPan _) asked
    have kept : standing { r' with pan := clampTo panRange pan } = _ :=
      congrArg (fun s : Standing => { s with pan := clampTo panRange pan }) changed
    rw [Operation.denied, granted, Accord, kept]
    exact Standing.Accord.change accord rfl (fun _ => rfl) accord.volume_mem
      (clampTo_mem (by decide) pan) rfl

/-! ### States -/

theorem Accord.start (accord : r.Accord denied) (origin : Ticks) :
    (r.start origin).2.Accord denied := by
  have prepared : (r.prepared origin).Accord denied := by
    have aside := Standing.Accord.aside accord true r.mediaTime
    rw [prepared_eq]
    exact aside
  rcases started : r.start origin with ⟨answer, r'⟩
  cases Started.of_start started with
  | running => exact accord
  | refused _ asked =>
    exact prepared.of_standing (standing_of_refused (SoundBuffer.requests_play true) asked)
  | @granted r₁ _ asked =>
    have changed := standing_of_granted (SoundBuffer.requests_play true) asked
    have kept : standing { r₁ with state := .running } = _ :=
      congrArg (fun s : Standing => { s with state := .running }) changed
    have running : Accord { r₁ with state := .running } denied := by
      rw [Accord, kept]
      exact Standing.Accord.change prepared rfl (fun _ => rfl) prepared.volume_mem
        prepared.pan_mem rfl
    unfold conclude
    split <;> exact running

/-- A buffer that grants the request has stopped. -/
theorem standing_stopHardware (granted : (r.onTransport SoundBuffer.stop).1 = .ok ()) :
    r.stopHardware.standing = { r.standing with
      connection := r.standing.connection.map (Prod.map id ({ · with playing := false })) } := by
  rcases asked : r.onTransport SoundBuffer.stop with ⟨answer, r'⟩
  rw [asked] at granted
  obtain rfl : answer = .ok () := granted
  have changed := standing_of_granted SoundBuffer.requests_stop asked
  unfold stopHardware
  rw [asked]
  dsimp only
  split
  · next t tracked =>
    obtain ⟨c, connected, rfl⟩ := Option.map_eq_some_iff.1 tracked
    have kept : (r'.setTracker c.tracker.reset).standing = r'.standing :=
      standing_setTracker connected rfl
    exact kept.trans changed
  · exact changed

/-- A running stream whose buffer stops goes over to a state of rest. -/
theorem Accord.halt (accord : r.Accord denied)
    (granted : (r.onTransport SoundBuffer.stop).1 = .ok ()) {state : StreamState}
    (idle : state ≠ .running) :
    Accord { r.stopHardware with state } denied := by
  have kept : standing { r.stopHardware with state } = _ :=
    congrArg (fun s : Standing => { s with state }) (standing_stopHardware granted)
  rw [Accord, kept]
  refine Standing.Accord.change accord rfl (fun f => ?_) accord.volume_mem accord.pan_mem rfl
  simp [Standing.wanted, idle]

theorem Accord.pause (accord : r.Accord denied)
    (granted : r.state = .running → (r.onTransport SoundBuffer.stop).1 = .ok ()) :
    r.pause.2.Accord denied := by
  unfold Renderer.pause
  split
  · exact accord
  · next stopped =>
    have idle : r.standing.state ≠ .running := by simp [standing, stopped]
    have paused : Standing.Accord { r.standing with state := .paused } denied :=
      Standing.Accord.rest accord idle nofun
    exact paused.aside _ _
  · next running => exact accord.halt (granted running) nofun

theorem Accord.stop (accord : r.Accord denied)
    (granted : r.state = .running → (r.onTransport SoundBuffer.stop).1 = .ok ()) :
    r.stop.Accord denied := by
  have stopped : Accord { (if r.state = .running then r.stopHardware else r) with
      state := .stopped } denied := by
    split
    · next running => exact accord.halt (granted running) nofun
    · next idle => exact Standing.Accord.rest accord idle nofun
  unfold Renderer.stop
  dsimp only
  split
  · exact stopped
  · exact Standing.Accord.aside stopped true none

/-! ### Connecting and giving back -/

/-- A fresh buffer is at the levels of the renderer, but for those that it refuses. -/
theorem setting_adjusted (r : Renderer) (size : Nat) (format : WaveFormat) :
    (r.adjusted (r.device.fresh size format)).setting =
      { playing := false
        frequency := format.sampleRate
        volume := if r.device.refuses.volume then 0 else r.volume
        pan := if r.device.refuses.pan then 0 else r.pan } := by
  unfold adjusted SoundBuffer.armLevel
  cases r.device.refuses.volume <;> cases r.device.refuses.pan <;> rfl

theorem Accord.connect (accord : r.Accord denied) (format : WaveFormat) :
    (r.connect format).2.Accord ((Operation.connect format).denied r denied) := by
  rcases h : r.connect format with ⟨answer, r'⟩
  rw [Operation.denied, h]
  rcases connect_inv h with
    ⟨rfl, refused⟩ | ⟨⟨-, stopped, -, rfl⟩, buffer, device, created, rfl⟩
  · cases answer with
    | ok => exact absurd rfl refused
    | error => exact accord
  obtain ⟨-, rfl, -⟩ := VirtualDevice.create_eq_ok created
  refine ⟨accord.volume_mem, accord.pan_mem, ?_, accord.silent⟩
  rintro _ _ ⟨⟩
  have idle : decide (r.state = .running) = false := by rw [stopped]; rfl
  refine (r.setting_adjusted _ format).trans ?_
  exact congrArg (Setting.mk · _ _ _) idle.symm

/-- Whatever the buffer was at, once it is given back it does not play. -/
theorem Accord.releaseBuffer (accord : r.Accord denied) {connection : Option (WaveFormat × Setting)}
    (same : r'.standing = { r.standing with connection }) :
    r'.releaseBuffer.Accord denied := by
  have volume : r'.standing.volume = r.standing.volume := by rw [same]
  have pan : r'.standing.pan = r.standing.pan := by rw [same]
  unfold Renderer.releaseBuffer
  split
  · next disconnected =>
    refine Standing.Accord.release accord volume pan (congrArg (Option.map _) disconnected) ?_
    rw [same]
    exact accord.silent
  · refine Standing.Accord.release accord volume pan rfl ?_
    rintro _ ⟨⟩
    exact SoundBuffer.playing_halt _

theorem Accord.disconnect (accord : r.Accord denied) : r.disconnect.2.Accord denied := by
  rcases r.disconnect_cases with same | released
  · rw [same]
    exact accord
  · rw [released]
    exact accord.releaseBuffer rfl

theorem Accord.close (accord : r.Accord denied) : r.close.Accord denied := by
  rcases asked : r.onTransport SoundBuffer.stop with ⟨answer, r'⟩
  rw [Renderer.close, asked]
  cases answer with
  | ok _ => exact accord.releaseBuffer (standing_of_granted SoundBuffer.requests_stop asked)
  | error _ => exact accord.releaseBuffer (standing_of_refused SoundBuffer.requests_stop asked)

/-! ### Samples -/

theorem standing_adopt {c : Connection} (connected : r.connection = some c) (new : WaveFormat) :
    (r.adopt new).standing
      = { r.standing with connection := some (new, c.tracker.ring.buffer.setting) } := by
  unfold standing adopt
  rw [connected]
  rfl

/-- A new format is adopted once the buffer plays at its rate. -/
theorem Accord.renegotiate (accord : r.Accord denied) {new : WaveFormat}
    {answer : Except RenderError Unit} (h : r.renegotiate new = (answer, r')) :
    r'.Accord denied := by
  have known {c : Connection} (connected : r.connection = some c) :
      r.standing.connection = some c.standing := congrArg (Option.map _) connected
  cases Negotiated.of_renegotiate h with
  | disconnected | same | unfit => exact accord
  | relabelled c suits rate =>
    have adopted := Standing.Accord.adopt accord (known suits.connected) new
    have set : { c.tracker.ring.buffer.setting with frequency := new.sampleRate }
        = c.tracker.ring.buffer.setting := by
      rw [accord.set _ _ (known suits.connected), ← rate]
      rfl
    rw [set] at adopted
    rw [Accord, standing_adopt suits.connected]
    exact adopted
  | refused _ _ _ asked =>
    have same := standing_of_refused (SoundBuffer.requests_setFrequency _) asked
    exact accord.of_standing same
  | @granted r₁ c suits _ asked =>
    have adopted := Standing.Accord.adopt accord (known suits.connected) new
    have changed := standing_of_granted (SoundBuffer.requests_setFrequency _) asked
    obtain ⟨b, connected₁⟩ := connection_of_onTransport suits.connected asked
    have set : b.setting = { c.tracker.ring.buffer.setting with frequency := new.sampleRate } := by
      have both := congrArg Standing.connection changed
      rw [known suits.connected] at both
      rw [show r₁.standing.connection = some (c.format, b.setting) from
        congrArg (Option.map _) connected₁] at both
      exact congrArg Prod.snd (Option.some.inj both)
    have told : (r₁.notify (.formatChanged c.format.sampleRate new.sampleRate)).standing = _ :=
      changed
    have same (event : RenderEvent) := standing_adopt (r := r₁.notify event) connected₁ new
    rw [Accord, same, told]
    rw [← set] at adopted
    exact adopted

theorem standing_take (r : Renderer) (s : MediaSample) :
    ∃ settled time, (r.take s).2.standing = { r.standing with settled, mediaTime := time } := by
  rw [take_eq]
  exact ⟨_, _, rfl⟩

theorem Accord.take (accord : r.Accord denied) (s : MediaSample) :
    (r.take s).2.Accord denied := by
  obtain ⟨settled, time, taken⟩ := r.standing_take s
  rw [Accord, taken]
  exact Standing.Accord.aside accord settled time

theorem Accord.screen (accord : r.Accord denied) (s : MediaSample) :
    (r.screen s).2.Accord denied := by
  rcases screened : r.screen s with ⟨answer, r'⟩
  cases Decided.of_screen screened with
  | declined | stopped | disconnected => exact accord
  | kept => exact accord.take s
  | rejected _ _ _ rejected => exact accord.renegotiate rejected
  | agreed _ _ _ _ agreed => exact (accord.renegotiate agreed).take s

end Renderer

/-! ### Operations -/

/-- A running stream is to rest, and its buffer refuses to stop. -/
def Operation.FailsToStop (op : Operation) (r : Renderer) : Prop :=
  (op = .pause ∨ op = .stop) ∧ r.state = .running ∧ (r.onTransport SoundBuffer.stop).1 ≠ .ok ()

theorem Operation.granted_of_not_failsToStop {op : Operation} {r : Renderer}
    (obeys : ¬op.FailsToStop r) (asks : op = .pause ∨ op = .stop) (running : r.state = .running) :
    (r.onTransport SoundBuffer.stop).1 = .ok () :=
  Classical.byContradiction fun refused => obeys ⟨asks, running, refused⟩

theorem Operation.denied_of_leavesStanding {op : Operation} (leaves : op.leavesStanding = true)
    (r : Renderer) (denied : Levels) : op.denied r denied = denied := by
  cases op with
  | connect | setVolume | setPan => cases leaves
  | _ => rfl

namespace Renderer

variable {r : Renderer} {denied : Levels}

/-- Whatever else fails, an operation keeps renderer and device in accord. -/
theorem Accord.apply (accord : r.Accord denied) {op : Operation} (obeys : ¬op.FailsToStop r) :
    (op.apply r).Accord (op.denied r denied) := by
  have granted := Operation.granted_of_not_failsToStop obeys
  by_cases leaves : op.leavesStanding = true
  · rw [Operation.denied_of_leavesStanding leaves]
    exact accord.of_standing (op.standing_apply leaves r)
  cases op with
  | connect format => exact accord.connect format
  | disconnect => exact accord.disconnect
  | pause => exact accord.pause (granted (.inl rfl))
  | start origin => exact accord.start origin
  | stop => exact accord.stop (granted (.inr rfl))
  | endFlush =>
    rw [Accord, Operation.apply, standing_endFlush]
    exact Standing.Accord.aside accord _ none
  | setVolume volume => exact accord.setVolume volume
  | setPan pan => exact accord.setPan pan
  | close => exact accord.close
  | screen sample => exact accord.screen sample
  | markEnd => exact Standing.Accord.aside accord true _
  | _ => exact absurd rfl leaves

/-- The renderers that come about on a device that never refuses to stop, whatever else it refuses,
with the levels that the connected buffer was denied. -/
inductive Obeyed : Renderer → Levels → Prop
  | create {device : VirtualDevice} {config : RendererConfig} {r : Renderer}
      (created : Renderer.create device config = .ok r) :
      Obeyed r {}
  | operate {r : Renderer} {denied : Levels} (obeyed : Obeyed r denied) {op : Operation}
      (obeys : ¬op.FailsToStop r) :
      Obeyed (op.apply r) (op.denied r denied)

theorem Obeyed.reachable (obeyed : r.Obeyed denied) : r.Reachable := by
  induction obeyed with
  | create created => exact .create created
  | operate _ _ reached => exact reached.operate _

theorem Obeyed.accord (obeyed : r.Obeyed denied) : r.Accord denied := by
  induction obeyed with
  | create created =>
    obtain ⟨-, rfl⟩ := create_inv created
    exact ⟨show volumeRange.1 ≤ 0 ∧ 0 ≤ volumeRange.2 by decide,
      show panRange.1 ≤ 0 ∧ 0 ≤ panRange.2 by decide, nofun, nofun⟩
  | operate _ obeys accord => exact accord.apply obeys

/-- A buffer that is given back does not play. -/
theorem currentBuffer_releaseBuffer (connected : r.connected = true) :
    ∃ b, r.releaseBuffer.currentBuffer = some b ∧ b.playing = false := by
  obtain ⟨c, connected⟩ := Option.isSome_iff_exists.1 connected
  unfold releaseBuffer
  rw [connected]
  exact ⟨_, rfl, SoundBuffer.playing_halt _⟩

/-- On a device that never refuses to stop, whatever else it refuses: the connected buffer plays
exactly while the stream runs, at the rate of the format, at the volume and balance that the
renderer keeps, which are in their ranges, and is as large as the ring; a level that it refused
while it was being connected is zero until it is set again. Without a connection no buffer plays,
and none does once it is given back. -/
theorem Obeyed.buffer_agrees (obeyed : r.Obeyed denied) :
    (∀ c ∈ r.connection, ∃ b, r.currentBuffer = some b
        ∧ (b.playing = true ↔ r.state = .running) ∧ b.frequency = c.format.sampleRate
        ∧ (b.volume = (if denied.volume then 0 else r.volume)
          ∧ volumeRange.1 ≤ r.volume ∧ r.volume ≤ volumeRange.2)
        ∧ (b.pan = (if denied.pan then 0 else r.pan)
          ∧ panRange.1 ≤ r.pan ∧ r.pan ≤ panRange.2)
        ∧ b.size = c.tracker.size)
      ∧ (r.connection = none → ∀ b ∈ r.currentBuffer, b.playing = false)
      ∧ (r.disconnect.1 = .ok () → ∃ b, r.disconnect.2.currentBuffer = some b ∧ b.playing = false)
      ∧ (r.connected = true → ∃ b, r.close.currentBuffer = some b ∧ b.playing = false) := by
  have accord := obeyed.accord
  have formed := obeyed.reachable.wellFormed
  refine ⟨fun c connected => ?_, fun disconnected b there => ?_, fun done => ?_,
    fun connected => ?_⟩
  · have set := accord.set _ _ (congrArg (Option.map Connection.standing) connected)
    have playing : c.tracker.ring.buffer.playing = decide (r.state = .running) :=
      congrArg Setting.playing set
    refine ⟨_, by rw [currentBuffer, connected], ?_, congrArg Setting.frequency set,
      ⟨congrArg Setting.volume set, accord.volume_mem⟩, ⟨congrArg Setting.pan set, accord.pan_mem⟩,
      (formed.connection c connected).seated.spans.size_eq⟩
    rw [playing, decide_eq_true_iff]
  · rw [currentBuffer, disconnected] at there
    exact accord.silent b.setting (Option.mem_map_of_mem _ there)
  · unfold disconnect at done ⊢
    split at done
    · cases done
    split at done
    · cases done
    next moving connected =>
    rw [if_neg moving, if_neg connected]
    exact currentBuffer_releaseBuffer (by simpa using connected)
  · rcases asked : r.onTransport SoundBuffer.stop with ⟨answer, r'⟩
    rw [close, asked]
    obtain ⟨c, connected⟩ := Option.isSome_iff_exists.1 connected
    obtain ⟨b, connected'⟩ := connection_of_onTransport connected asked
    exact currentBuffer_releaseBuffer (Option.isSome_iff_exists.2 ⟨_, connected'⟩)

/-- Nothing but a pause or a stop fails to stop the buffer. -/
theorem Obeyed.after (obeyed : r.Obeyed denied) (op : Operation)
    (moving : op ≠ .pause ∧ op ≠ .stop) : (op.apply r).Obeyed (op.denied r denied) :=
  obeyed.operate fun fails => fails.1.elim moving.1 moving.2

theorem obeyed_unconnected : unconnected.Obeyed {} :=
  .create (show create unconnected.device unconnected.config = .ok _ from rfl)

/-- The buffer refuses to play and then to change its volume, and does both when asked again. -/
theorem buffer_agrees_of_refusals :
    ∃ r, Obeyed r {} ∧ r.state = .running ∧ r.volume = -600
      ∧ ∃ b, r.currentBuffer = some b ∧ b.playing = true ∧ b.volume = -600 := by
  have connected := obeyed_unconnected.after (.connect (.pcm 1000 1 8)) ⟨nofun, nofun⟩
  have mute := connected.after (.disturb (.fail .play true)) ⟨nofun, nofun⟩
  have refused := mute.after (.start 0) ⟨nofun, nofun⟩
  have running := refused.after (.start 0) ⟨nofun, nofun⟩
  have fixed := running.after (.disturb .failLevel) ⟨nofun, nofun⟩
  have loud := fixed.after (.setVolume (-300)) ⟨nofun, nofun⟩
  have quiet := loud.after (.setVolume (-600)) ⟨nofun, nofun⟩
  obtain ⟨agrees, -⟩ := quiet.buffer_agrees
  obtain ⟨b, current, playing, -, ⟨volume, -⟩, -⟩ := agrees _ rfl
  exact ⟨_, quiet, rfl, rfl, b, current, playing.2 rfl, volume⟩

/-- A volume is set without a connection, and the buffer that is then connected refuses it: both
calls succeed, and the buffer stays at the zero that the renderer does not have. -/
theorem keeps_zero_of_refused_level :
    let quiet := ((unconnected.setVolume (-600)).2.disturb (.failNewLevels { volume := true }))
    let connected := quiet.connect (.pcm 1000 1 8)
    (unconnected.setVolume (-600)).1 = .ok () ∧ connected.1 = .ok ()
      ∧ Obeyed connected.2 { volume := true }
      ∧ connected.2.volume = -600
      ∧ connected.2.currentBuffer.map (·.volume) = some 0 := by
  have quiet := obeyed_unconnected.after (.setVolume (-600)) ⟨nofun, nofun⟩
  have refusing := quiet.after (.disturb (.failNewLevels { volume := true })) ⟨nofun, nofun⟩
  have connected := refusing.after (.connect (.pcm 1000 1 8)) ⟨nofun, nofun⟩
  exact ⟨rfl, rfl, connected, rfl, rfl⟩

end Renderer

end Playout
