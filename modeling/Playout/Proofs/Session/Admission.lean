import Playout.Proofs.Session.Settling

/-!
# Samples that are refused, and formats that are taken over

A call that hands over a sample either refuses it on the spot or feeds it. What it refuses leaves no
trace: the renderer is the one that it was, but for the notice that the listener is given of a
format that does not fit, and for the failure of the device that is used up with it. A format that
fits is taken over as a whole (`Renderer.Reachable.receive_atomic`).

## Design points

* **One way to change the format never occurs.** Of the ways in which such a change ends in the
  program (`Renderer.Negotiated`) it is the one that leaves the frame rate: an accepted format with
  the same frame rate is the same format. `Renderer.Renegotiated` has a case for each of the others.
* **What a pass leaves alone is read off its shape:** the outside acts, and then the connection and
  the counters change (`Renderer.Passed`).
-/

namespace Playout

/-! ### Formats and buffers -/

/-- Formats that a stream may switch between differ at most in the two rates. -/
theorem WaveFormat.renegotiableTo_iff (f new : WaveFormat) :
    f.renegotiableTo new = true
      ↔ new = { f with sampleRate := new.sampleRate, byteRate := new.byteRate } := by
  rcases f with ⟨tag, channels, sampleRate, byteRate, align, bits, extra⟩
  rcases new with ⟨tag', channels', sampleRate', byteRate', align', bits', extra'⟩
  simp only [renegotiableTo, Bool.and_eq_true, beq_iff_eq, WaveFormat.mk.injEq, true_and]
  constructor
  · rintro ⟨⟨⟨⟨rfl, rfl⟩, rfl⟩, rfl⟩, rfl⟩
    simp
  · rintro ⟨rfl, rfl, rfl, rfl, rfl⟩
    simp

/-- Of two accepted formats that differ at most in the two rates, those with the same frame rate are
the same. -/
theorem WaveFormat.eq_of_sampleRate_eq {f new : WaveFormat} (valid : f.validate = .ok ())
    (valid' : new.validate = .ok ()) (renegotiable : f.renegotiableTo new = true)
    (same : f.sampleRate = new.sampleRate) : new = f := by
  obtain ⟨-, -, -, -, -, bytes, -⟩ := of_validate valid
  obtain ⟨-, -, -, -, -, bytes', -⟩ := of_validate valid'
  have switched := (f.renegotiableTo_iff new).1 renegotiable
  rw [switched, ← same] at bytes' ⊢
  rw [bytes', ← bytes]

/-- What the listener is told when a stream goes over from one format to another. -/
def WaveFormat.changes (old new : WaveFormat) : List RenderEvent :=
  if old.sampleRate = new.sampleRate then []
  else [.formatChanged old.sampleRate new.sampleRate]

/-- A rate that is refused leaves the buffer, but for the failure that is used up. -/
theorem SoundBuffer.eq_of_setFrequency_refused {b b' : SoundBuffer} {hz : Nat} {e : TransportError}
    (asked : b.setFrequency hz = (.error e, b')) : b' = { b with armed := b'.armed } := by
  unfold setFrequency at asked
  split at asked
  · cases asked
    rfl
  split at asked
  · cases asked
    rfl
  split at asked <;> cases asked

/-- A rate that is granted is the rate of the buffer, which is as large as it was. -/
theorem SoundBuffer.of_setFrequency_granted {b b' : SoundBuffer} {hz : Nat}
    (asked : b.setFrequency hz = (.ok (), b')) : b'.frequency = hz ∧ b'.size = b.size := by
  unfold setFrequency at asked
  split at asked
  · cases asked
  split at asked
  · cases asked
  split at asked
  · cases asked
    exact ⟨rfl, b.size_freeze⟩
  · cases asked
    exact ⟨rfl, rfl⟩

/-- Whether an error is one that a pass comes upon. -/
def RenderError.isFailure : RenderError → Bool
  | hardware _ | fault _ => true
  | _ => false

/-! ### Connections -/

/-- A format with what it is played with: a rate, a ring and the memory of a buffer. -/
structure Layout where
  format : WaveFormat
  frequency : Nat
  ringSize : Nat
  bufferSize : Nat
  deriving DecidableEq, Repr

/-- The layout after a switch to another format. The buffer is asked for the new rate only if it is
another one. -/
def Layout.switch (l : Layout) (new : WaveFormat) : Layout :=
  { l with
    format := new
    frequency := if l.format.sampleRate = new.sampleRate then l.frequency else new.sampleRate }

theorem Layout.switch_self (l : Layout) : l.switch l.format = l := by
  simp [switch]

namespace Connection

variable {c : Connection} {new : WaveFormat}

def layout (c : Connection) : Layout where
  format := c.format
  frequency := c.tracker.ring.buffer.frequency
  ringSize := c.tracker.size
  bufferSize := c.tracker.ring.buffer.size

/-- What is asked of a format that a sample brings along: it is the present one, or else it differs
from that in its rates alone, is an acceptable one, and the device plays at its rate. -/
def Admits (c : Connection) (new : WaveFormat) : Prop :=
  new = c.format
    ∨ new = { c.format with sampleRate := new.sampleRate, byteRate := new.byteRate }
      ∧ new.validate = .ok ()
      ∧ (c.tracker.ring.buffer.setFrequency new.sampleRate).1 = .ok ()

/-- The connection once it has taken over a format, with what has become of its buffer. -/
def adopt (c : Connection) (new : WaveFormat) (b : SoundBuffer) : Connection :=
  { c.withBuffer b with format := new }

theorem layout_adopt {b : SoundBuffer} (other : c.format.sampleRate ≠ new.sampleRate)
    (granted : c.tracker.ring.buffer.setFrequency new.sampleRate = (.ok (), b)) :
    (c.adopt new b).layout = c.layout.switch new := by
  obtain ⟨frequency, size⟩ := SoundBuffer.of_setFrequency_granted granted
  have switched : (c.layout.switch new).frequency = new.sampleRate := if_neg other
  rw [show (c.adopt new b).layout = ⟨new, b.frequency, c.tracker.size, b.size⟩ from rfl, size,
    frequency, ← switched]
  rfl

end Connection

/-! ### The change of a format -/

namespace Renderer

variable {r r' : Renderer} {c : Connection}

theorem setBuffer_self (connected : r.connection = some c) :
    r.setBuffer c.tracker.ring.buffer = r := by
  rcases r with ⟨config, device, state, _, streamStart⟩
  cases connected
  rfl

/-- How a change of the format ends. -/
inductive Renegotiated (r : Renderer) (c : Connection) (new : WaveFormat) :
    Except RenderError Unit × Renderer → Prop
  | same (present : new = c.format) : Renegotiated r c new (.ok (), r)
  | switched (b : SoundBuffer) (admitted : c.Admits new)
      (other : c.format.sampleRate ≠ new.sampleRate)
      (granted : c.tracker.ring.buffer.setFrequency new.sampleRate = (.ok (), b)) :
      Renegotiated r c new (.ok (), { r with
        connection := some (c.adopt new b)
        inbox := r.inbox.map (· ++ c.format.changes new) })
  | rejected (reason : Rejection) (b : SoundBuffer) (unfit : ¬c.Admits new)
      (unchanged : b = { c.tracker.ring.buffer with armed := b.armed }) :
      Renegotiated r c new
        (.error (.typeRejected reason), (r.setBuffer b).notify (.formatRejected reason))

/-- A rejection before the device is asked. -/
theorem Renegotiated.unasked {new : WaveFormat} (connected : r.connection = some c)
    (reason : Rejection) (unfit : ¬c.Admits new) :
    r.Renegotiated c new (.error (.typeRejected reason), r.notify (.formatRejected reason)) := by
  have rejected : r.Renegotiated c new (.error (.typeRejected reason), _) :=
    .rejected reason c.tracker.ring.buffer unfit rfl
  rwa [setBuffer_self connected] at rejected

theorem renegotiated (connected : r.connection = some c) (valid : c.format.validate = .ok ())
    (new : WaveFormat) : r.Renegotiated c new (r.renegotiate new) := by
  rcases changed : r.renegotiate new with ⟨answer, r'⟩
  cases Negotiated.of_renegotiate changed with
  | disconnected disconnected => cases connected.symm.trans disconnected
  | same c' connected' same =>
    obtain rfl := Option.some.inj (connected.symm.trans connected')
    exact .same same.symm
  | unfit c' reason connected' other unfit =>
    obtain rfl := Option.some.inj (connected.symm.trans connected')
    refine .unasked connected _ ?_
    rintro (same | ⟨rates, valid', -⟩)
    · exact other same.symm
    · exact unfit ⟨connected, other, (c.format.renegotiableTo_iff new).2 rates, valid'⟩
  | relabelled c' suits rate =>
    obtain rfl := Option.some.inj (connected.symm.trans suits.connected)
    exact absurd (WaveFormat.eq_of_sampleRate_eq valid suits.valid suits.renegotiable rate).symm
      suits.other
  | refused c' suits rate refused =>
    obtain rfl := Option.some.inj (connected.symm.trans suits.connected)
    obtain ⟨b, asked, rfl⟩ := onTransport_of_connection connected refused
    refine .rejected _ b ?_ (SoundBuffer.eq_of_setFrequency_refused asked)
    rintro (same | ⟨-, -, granted⟩)
    · exact suits.other same.symm
    · rw [asked] at granted
      cases granted
  | granted c' suits rate granted =>
    obtain rfl := Option.some.inj (connected.symm.trans suits.connected)
    obtain ⟨b, asked, rfl⟩ := onTransport_of_connection connected granted
    have admitted : c.Admits new :=
      .inr ⟨(c.format.renegotiableTo_iff new).1 suits.renegotiable, suits.valid, by rw [asked]⟩
    have switched := Renegotiated.switched (r := r) b admitted rate asked
    simpa [adopt, setBuffer, notify, connected, WaveFormat.changes, rate, Connection.adopt,
      Connection.withBuffer] using switched

/-! ### What feeding leaves alone -/

/-- The outside has acted, and then the connection and the counters have changed. -/
def Passed (r r' : Renderer) : Prop :=
  ∃ acts connection stats, r' = { r.disturbAll acts with connection, stats }

theorem Passed.count (passed : r.Passed r') (stats : RenderStats) :
    r.Passed { r' with stats } := by
  obtain ⟨acts, connection, -, rfl⟩ := passed
  exact ⟨acts, connection, stats, rfl⟩

theorem Passed.setTracker (passed : r.Passed r') (t : PositionTracker) :
    r.Passed (r'.setTracker t) := by
  obtain ⟨acts, connection, stats, rfl⟩ := passed
  exact ⟨acts, _, stats, rfl⟩

theorem passed_refl (r : Renderer) : r.Passed r := ⟨[], r.connection, r.stats, rfl⟩

theorem passed_atReading (r : Renderer) (acts : List Disturbance) :
    r.Passed (r.atReading acts) := by
  unfold atReading
  split
  · exact r.passed_refl
  · exact ⟨acts, _, _, rfl⟩

theorem passed_look {schedule rest : Schedule}
    {work : Connection → Except Failure α × PositionTracker} {answer : Except RenderError α}
    (looked : r.look schedule work = (answer, r', rest)) : r.Passed r' := by
  cases Looked.of_look looked with
  | unscheduled => exact r.passed_refl
  | disconnected acts => exact r.passed_atReading acts
  | failed acts | found acts => exact (r.passed_atReading acts).setTracker _

theorem passed_planChunk {writeAt : Option Ticks} {schedule rest : Schedule}
    {chunk : Except RenderError (Option Chunk)}
    (planned : r.planChunk writeAt schedule = (chunk, r', rest)) : r.Passed r' := by
  cases Planned.of_planChunk planned with
  | overflow | disconnected => exact r.passed_refl
  | failed _ looked => exact passed_look looked
  | found _ looked stats => exact (passed_look looked).count stats

theorem Passed.writeChunk (passed : r.Passed r') (data : List UInt8) (chunk : Chunk) :
    r.Passed (r'.writeChunk data chunk).2 := by
  rcases written : r'.writeChunk data chunk with ⟨outcome, r''⟩
  cases Written.of_writeChunk written with
  | stale | disconnected => exact passed.count _
  | refused | granted => exact (passed.setTracker _).count _

theorem passed_feedPass (r : Renderer) (left : Feed) (schedule : Schedule) :
    r.Passed (r.feedPass left schedule).2.1 := by
  by_cases idle : left.data.isEmpty ∨ r.state ≠ .running
  · obtain ⟨stats, counted⟩ := feedPass_of_idle idle schedule
    rw [counted]
    exact r.passed_refl.count stats
  rw [feedPass_of_not_idle idle]
  rcases planned : r.planChunk left.writeAt schedule with ⟨_ | _ | chunk, r', rest⟩
  all_goals have passed := passed_planChunk planned
  · exact passed
  · exact passed.count _
  · exact passed.writeChunk left.data chunk

/-- What was told to the listener, and how many buffers the device has created. -/
theorem told_disturbAll (r : Renderer) (acts : List Disturbance) :
    (r.disturbAll acts).inbox = r.inbox
      ∧ (r.disturbAll acts).device.created = r.device.created := by
  induction acts generalizing r with
  | nil => exact ⟨rfl, rfl⟩
  | cons act acts ih =>
    obtain ⟨inbox, created⟩ := ih (r.disturb act)
    have one : (r.disturb act).inbox = r.inbox
        ∧ (r.disturb act).device.created = r.device.created := by
      rcases r with ⟨_, _, _, _ | c⟩ <;> cases act <;> exact ⟨rfl, rfl⟩
    exact ⟨inbox.trans one.1, created.trans one.2⟩

/-- What a stream is played with, and what its listener knows. -/
structure Setup where
  layout : Option Layout
  /-- How many buffers the device has created. -/
  created : Nat
  inbox : Option (List RenderEvent)
  deriving DecidableEq, Repr

/-- The setup once the connection has gone over to another format. -/
def Setup.switch (u : Setup) (l : Layout) (new : WaveFormat) : Setup :=
  { u with layout := some (l.switch new), inbox := u.inbox.map (· ++ l.format.changes new) }

def setup (r : Renderer) : Setup where
  layout := r.connection.map (·.layout)
  created := r.device.created
  inbox := r.inbox

/-- The layout of a connection is known from its standing and its dimensions. -/
theorem layout_eq (formed : r.WellFormed) (formed' : r'.WellFormed)
    (standing : r'.standing.connection = r.standing.connection)
    (dimensions : r'.dimensions = r.dimensions) :
    r'.connection.map (·.layout) = r.connection.map (·.layout) := by
  have dimensions := congrArg Prod.snd dimensions
  simp only [Renderer.standing, Renderer.dimensions] at standing dimensions
  cases connected : r.connection with
  | none => simpa [connected] using standing
  | some c =>
    rw [connected, Option.map_some] at standing dimensions
    obtain ⟨c', connected', stands⟩ := Option.map_eq_some_iff.1 standing
    rw [connected', Option.map_some] at dimensions
    simp only [connected', Option.map_some, Connection.layout,
      (formed.connection c connected).seated.spans.size_eq,
      (formed'.connection c' connected').seated.spans.size_eq]
    simp only [Connection.standing, SoundBuffer.setting, Prod.mk.injEq, Setting.mk.injEq,
      Option.some.injEq] at stands dimensions
    rw [stands.1, stands.2.2.1, dimensions.2]

/-- A pass leaves the setup. -/
theorem WellFormed.setup_feedPass (formed : r.WellFormed) (left : Feed) (schedule : Schedule) :
    (r.feedPass left schedule).2.1.setup = r.setup := by
  have shape := formed.sameShape_feedPass left schedule
  have standing := congrArg Standing.connection (r.standing_feedPass left schedule)
  have layout := layout_eq formed shape.wellFormed standing shape.dimensions_eq
  obtain ⟨acts, connection, stats, passed⟩ := r.passed_feedPass left schedule
  obtain ⟨inbox, created⟩ := r.told_disturbAll acts
  rw [setup, layout, passed, setup]
  dsimp only
  rw [inbox, created]

/-! ### What feeding answers -/

theorem failure_of_look {schedule rest : Schedule}
    {work : Connection → Except Failure α × PositionTracker} {e : RenderError}
    (looked : r.look schedule work = (.error e, r', rest)) :
    e.isFailure = true ∨ e = .notConnected ∧ r.connection = none := by
  generalize answered : (Except.error e : Except RenderError α) = answer at looked
  cases Looked.of_look looked with
  | unscheduled =>
    cases answered
    exact .inl rfl
  | disconnected acts disconnected =>
    cases answered
    refine .inr ⟨rfl, Option.eq_none_iff_forall_ne_some.2 fun c before => ?_⟩
    obtain ⟨b, connected⟩ := connection_atReading before acts
    cases disconnected.symm.trans connected
  | @failed rest failure =>
    cases answered
    cases failure <;> exact .inl rfl
  | found => cases answered

theorem failure_of_planChunk {writeAt : Option Ticks} {schedule rest : Schedule} {e : RenderError}
    (planned : r.planChunk writeAt schedule = (.error e, r', rest)) :
    e.isFailure = true ∨ e = .notConnected ∧ r.connection = none := by
  cases Planned.of_planChunk planned with
  | overflow => exact .inl rfl
  | disconnected disconnected => exact .inr ⟨rfl, disconnected⟩
  | failed _ looked => exact failure_of_look looked

theorem failure_of_writeChunk {data : List UInt8} {chunk : Chunk} {e : RenderError}
    (written : r.writeChunk data chunk = (.returned (.error e), r')) :
    e.isFailure = true ∨ e = .notConnected ∧ r.connection = none := by
  cases Written.of_writeChunk written with
  | disconnected fresh disconnected => exact .inr ⟨rfl, disconnected⟩
  | refused => exact .inl rfl

/-- A pass fails of the hardware or of the arithmetic, or else there is no connection. -/
theorem failure_of_feedPass {left : Feed} {schedule rest : Schedule} {e : RenderError}
    (passed : r.feedPass left schedule = (.returned (.error e), r', rest)) :
    e.isFailure = true ∨ e = .notConnected ∧ r.connection = none := by
  by_cases idle : left.data.isEmpty ∨ r.state ≠ .running
  · rcases feedPass_idle_cases idle schedule with ⟨-, ends⟩ | ends <;>
      cases ends.symm.trans passed
  rw [feedPass_of_not_idle idle] at passed
  rcases planned : r.planChunk left.writeAt schedule with ⟨_ | _ | chunk, r₁, rest₁⟩ <;>
    rw [planned] at passed
  · cases passed
    exact failure_of_planChunk planned
  · cases passed
  · obtain ⟨acts, c, timing, plan, positions, t, -, -, -, -, connected, -⟩ := planChunk_inv planned
    have written : r₁.writeChunk left.data chunk = (.returned (.error e), r') :=
      congrArg (fun x => (x.1, x.2.1)) passed
    rcases failure_of_writeChunk written with failure | ⟨-, disconnected⟩
    · exact .inl failure
    · cases connected.symm.trans disconnected

theorem connected_feedPass (r : Renderer) (left : Feed) (schedule : Schedule) :
    (r.feedPass left schedule).2.1.connection = none ↔ r.connection = none := by
  have standing := congrArg Standing.connection (r.standing_feedPass left schedule)
  simp only [Renderer.standing] at standing
  rw [← Option.map_eq_none_iff (f := Connection.standing), standing, Option.map_eq_none_iff]

/-- A turn that feeds a sample leaves the setup. It waits, or the sample is rendered, or it fails of
the hardware, of the arithmetic, or for want of a connection. -/
theorem WellFormed.feedTurn (formed : r.WellFormed) (left : Feed) (schedule : Schedule) :
    (r.feedTurn left schedule).2.1.setup = r.setup
      ∧ ∀ result, (r.feedTurn left schedule).1 = .returned result →
        result = .ok (.receipt .rendered)
          ∨ ∃ e, result = .error e
            ∧ (e.isFailure = true ∨ e = .notConnected ∧ r.connection = none) := by
  -- The recursion follows the passes; only the last of them answers.
  fun_induction Renderer.feedTurn r left schedule with
  | case1 r left schedule r' rest h =>
    have setup := formed.setup_feedPass left schedule
    rw [h] at setup
    exact ⟨setup, fun result answered => .inl (by cases answered; rfl)⟩
  | case2 r left schedule e r' rest h =>
    have setup := formed.setup_feedPass left schedule
    rw [h] at setup
    refine ⟨setup, fun result answered => .inr ⟨e, ?_, failure_of_feedPass h⟩⟩
    cases answered
    rfl
  | case3 r left schedule left' r' rest h =>
    have setup := formed.setup_feedPass left schedule
    rw [h] at setup
    exact ⟨setup, fun result answered => by cases answered⟩
  | case4 r left schedule left' r' rest h _ ih =>
    have setup := formed.setup_feedPass left schedule
    have shape := formed.sameShape_feedPass left schedule
    have connected := r.connected_feedPass left schedule
    rw [h] at setup shape connected
    obtain ⟨later, answers⟩ := ih shape.wellFormed
    rw [connected] at answers
    exact ⟨later.trans setup, answers⟩

/-! ### Screening -/

/-- Samples are taken, if there is a connection. -/
def Admitting (r : Renderer) : Prop := r.ended = false ∧ r.flushing = false ∧ r.state ≠ .stopped

/-- How the screening of a sample ends. -/
inductive Screened (r : Renderer) (s : MediaSample) : Except RenderError Admission × Renderer → Prop
  | declined (closed : ¬r.Admitting) : Screened r s (.ok (.done .declined), r)
  | wrongState (closed : ¬r.Admitting) : Screened r s (.error .wrongState, r)
  | notConnected (disconnected : r.connection = none) : Screened r s (.error .notConnected, r)
  | rejected (c : Connection) (new : WaveFormat) (reason : Rejection) (b : SoundBuffer)
      (connected : r.connection = some c) (carried : s.format = some new) (unfit : ¬c.Admits new)
      (unchanged : b = { c.tracker.ring.buffer with armed := b.armed }) :
      Screened r s (.error (.typeRejected reason), (r.setBuffer b).notify (.formatRejected reason))
  | taken (c : Connection) (r₁ : Renderer) (connected : r.connection = some c)
      (admitted : c.Admits (s.format.getD c.format)) (formed : r₁.WellFormed)
      (setup : r₁.setup = r.setup.switch c.layout (s.format.getD c.format)) :
      Screened r s (.ok (r₁.take s).1, (r₁.take s).2)

theorem setup_switch_self (connected : r.connection = some c) :
    r.setup.switch c.layout c.format = r.setup := by
  have changes : c.layout.format.changes c.format = [] := if_pos rfl
  have layout : c.layout.switch c.format = c.layout := c.layout.switch_self
  simp [Setup.switch, setup, connected, layout, changes]

theorem WellFormed.screened (formed : r.WellFormed) (s : MediaSample) :
    r.Screened s (r.screen s) := by
  rcases screened : r.screen s with ⟨answer, r'⟩
  cases Decided.of_screen screened with
  | declined closed =>
    refine .declined fun admitting => ?_
    simp [admitting.1, admitting.2.1] at closed
  | stopped stopped => exact .wrongState fun admitting => admitting.2.2 stopped
  | disconnected disconnected => exact .notConnected disconnected
  | kept connected _ carried =>
    obtain ⟨c, connected⟩ := Option.ne_none_iff_exists'.1 connected
    have present : s.format.getD c.format = c.format := by rw [carried, Option.getD_none]
    refine .taken c r connected (.inl present) formed ?_
    rw [present, setup_switch_self connected]
  | rejected new connected carried rejected =>
    obtain ⟨c, connected⟩ := Option.ne_none_iff_exists'.1 connected
    have renegotiated := renegotiated connected (formed.connection c connected).valid new
    rw [rejected] at renegotiated
    cases renegotiated with
    | rejected reason b unfit unchanged =>
      exact .rejected c new reason b connected carried unfit unchanged
  | @agreed r₁ new connected _ carried agreed =>
    obtain ⟨c, connected⟩ := Option.ne_none_iff_exists'.1 connected
    have carries : s.format.getD c.format = new := by rw [carried, Option.getD_some]
    have renegotiated := renegotiated connected (formed.connection c connected).valid new
    have formed₁ := formed.persists (persists_renegotiate agreed)
    rw [agreed] at renegotiated
    cases renegotiated with
    | same present =>
      refine .taken c r connected (.inl (carries.trans present)) formed ?_
      rw [carries, present, setup_switch_self connected]
    | switched b admitted other granted =>
      refine .taken c _ connected (carries ▸ admitted) formed₁ ?_
      rw [carries, setup, Option.map_some, Connection.layout_adopt other granted]
      rfl

theorem setup_take (r : Renderer) (s : MediaSample) : (r.take s).2.setup = r.setup := by
  rw [take_eq]
  rfl

/-! ### Handing over a sample -/

/-- What a call answers that takes nothing of a sample. -/
def refusals : List (Except RenderError Outcome) :=
  [.ok (.receipt .declined), .error .wrongState, .error .notConnected]

/-- Neither a refusal nor the rejection of a format. -/
def Heeds (result : Except RenderError Outcome) : Prop :=
  result ∉ refusals ∧ ∀ reason, result ≠ .error (.typeRejected reason)

theorem heeds_of_isFailure {e : RenderError} (failure : e.isFailure = true) :
    Heeds (.error e) := by
  cases e with
  | hardware | fault => exact ⟨by simp [refusals], nofun⟩
  | _ => cases failure

/-- What comes of handing over a sample in the first turn of a call. -/
inductive Received (r : Renderer) (s : MediaSample) (schedule : Schedule) :
    Progress × Renderer × Schedule → Prop
  | refused (refusal : Except RenderError Outcome) (mem : refusal ∈ refusals)
      (unaccepted : ¬r.Accepts s) (closed : ¬(r.Admitting ∧ r.connection ≠ none)) :
      Received r s schedule (.returned refusal, r, schedule)
  | rejected (c : Connection) (new : WaveFormat) (reason : Rejection) (b : SoundBuffer)
      (connected : r.connection = some c) (carried : s.format = some new) (unfit : ¬c.Admits new)
      (unaccepted : ¬r.Accepts s)
      (unchanged : b = { c.tracker.ring.buffer with armed := b.armed }) :
      Received r s schedule (.returned (.error (.typeRejected reason)),
        (r.setBuffer b).notify (.formatRejected reason), schedule)
  | taken (c : Connection) (now : Progress × Renderer × Schedule)
      (connected : r.connection = some c) (admitted : c.Admits (s.format.getD c.format))
      (accepted : r.Accepts s)
      (setup : now.2.1.setup = r.setup.switch c.layout (s.format.getD c.format))
      (heeds : ∀ result, now.1 = .returned result → Heeds result) :
      Received r s schedule now

theorem WellFormed.received (formed : r.WellFormed) (s : MediaSample) (schedule : Schedule) :
    r.Received s schedule (r.receive s schedule) := by
  have screened := formed.screened s
  have accepts : r.Accepts s
      ↔ (∃ left, (r.screen s).1 = .ok (.feed left)) ∨ (r.screen s).1 = .ok (.done .preroll) :=
    .rfl
  unfold receive
  rcases answered : r.screen s with ⟨answer, r'⟩
  rw [answered] at screened accepts
  cases screened with
  | declined closed =>
    exact .refused _ (by simp [refusals]) (by simp [accepts]) fun admitting => closed admitting.1
  | wrongState closed =>
    exact .refused _ (by simp [refusals]) (by simp [accepts]) fun admitting => closed admitting.1
  | notConnected disconnected =>
    exact .refused _ (by simp [refusals]) (by simp [accepts]) fun admitting =>
      admitting.2 disconnected
  | rejected c new reason b connected carried unfit unchanged =>
    exact .rejected c new reason b connected carried unfit (by simp [accepts]) unchanged
  | taken c r₁ connected admitted formed₁ setup =>
    have formed₂ := formed₁.persists (persists_take r₁ s)
    have setup₂ := (r₁.setup_take s).trans setup
    have connected₂ : (r₁.take s).2.connection ≠ none := by
      intro disconnected
      have layout := congrArg Setup.layout setup₂
      simp [Renderer.setup, Setup.switch, disconnected] at layout
    obtain ⟨kind, -⟩ := r₁.stage_take s
    rcases took : r₁.take s with ⟨admission, r₂⟩
    rw [took] at formed₂ setup₂ connected₂ kind accepts
    rcases kind with ⟨left, rfl⟩ | rfl
    · obtain ⟨kept, answers⟩ := formed₂.feedTurn left schedule
      refine .taken c _ connected admitted (accepts.2 (.inl ⟨left, rfl⟩)) (kept.trans setup₂) ?_
      intro result returned
      rcases answers result returned with rfl | ⟨e, rfl, failure | ⟨-, disconnected⟩⟩
      · exact ⟨by simp [refusals], nofun⟩
      · exact heeds_of_isFailure failure
      · exact absurd disconnected connected₂
    · refine .taken c _ connected admitted (accepts.2 (.inr rfl)) setup₂ ?_
      rintro _ ⟨⟩
      exact ⟨by simp [refusals], nofun⟩

/-- After a wait nothing is refused for what the sample is. -/
theorem WellFormed.resumed (formed : r.WellFormed) (left : Feed) (schedule : Schedule) :
    (r.resume (.receive left) schedule).2.1.setup = r.setup
      ∧ ∀ result, (r.resume (.receive left) schedule).1 = .returned result →
        result ≠ .ok (.receipt .declined) ∧ ∀ reason, result ≠ .error (.typeRejected reason) := by
  unfold resume
  dsimp only
  split
  · exact ⟨rfl, by rintro _ ⟨⟩; exact ⟨nofun, nofun⟩⟩
  · next e woken =>
    obtain rfl := eq_wrongState_of_feedWake woken
    exact ⟨rfl, by rintro _ ⟨⟩; exact ⟨nofun, nofun⟩⟩
  · obtain ⟨setup, answers⟩ := formed.feedTurn left schedule
    refine ⟨setup, fun result returned => ?_⟩
    rcases answers result returned with rfl | ⟨e, rfl, failure | ⟨rfl, -⟩⟩
    · exact ⟨nofun, nofun⟩
    · exact ⟨nofun, (heeds_of_isFailure failure).2⟩
    · exact ⟨nofun, nofun⟩

/-- A sample that is refused leaves the renderer as it was. One whose format is rejected leaves it
so but for one event, with the reason, at the end of what the listener has to read, and for the
failure of the device that is used up, and only the first turn of a call rejects. A format that a
sample brings along is accepted exactly if the connection admits it; then the stream has that
format, the listener is told exactly if the rate is another one, and the buffer is the one that it
was, as large as it was and at the new rate. -/
theorem Reachable.receive_atomic (reached : r.Reachable) (s : MediaSample) (schedule : Schedule) :
    (∀ refusal ∈ refusals, (r.receive s schedule).1 = .returned refusal →
        (r.receive s schedule).2 = (r, schedule))
      ∧ (∀ reason, (r.receive s schedule).1 = .returned (.error (.typeRejected reason)) →
        ∃ c b, r.connection = some c ∧ b = { c.tracker.ring.buffer with armed := b.armed }
          ∧ (r.receive s schedule).2
            = ({ r with
                connection := some (c.withBuffer b)
                inbox := r.inbox.map (· ++ [.formatRejected reason]) }, schedule))
      ∧ (∀ c new, r.connection = some c → s.format = some new → r.Admitting →
        (r.Accepts s ↔ c.Admits new)
          ∧ ((∃ reason, (r.receive s schedule).1 = .returned (.error (.typeRejected reason)))
            ↔ ¬c.Admits new)
          ∧ (c.Admits new → (r.receive s schedule).2.1.setup = r.setup.switch c.layout new))
      ∧ ∀ left, (r.resume (.receive left) schedule).2.1.setup = r.setup
        ∧ ∀ result, (r.resume (.receive left) schedule).1 = .returned result →
          result ≠ .ok (.receipt .declined) ∧ ∀ reason, result ≠ .error (.typeRejected reason) := by
  have received := reached.wellFormed.received s schedule
  refine ⟨?_, ?_, ?_, ?_⟩
  · intro refusal mem answered
    generalize r.receive s schedule = now at received answered ⊢
    cases received with
    | refused => rfl
    | rejected =>
      cases answered
      simp [refusals] at mem
    | taken c _ _ _ _ _ heeds => exact absurd mem (heeds refusal answered).1
  · intro reason answered
    generalize r.receive s schedule = now at received answered ⊢
    cases received with
    | refused refusal mem =>
      cases answered
      simp [refusals] at mem
    | rejected c new reason b connected _ _ _ unchanged =>
      cases answered
      refine ⟨c, b, connected, unchanged, ?_⟩
      unfold setBuffer
      rw [connected]
      rfl
    | taken c _ _ _ _ _ heeds => exact absurd rfl ((heeds _ answered).2 reason)
  · intro c new connected carried admitting
    generalize r.receive s schedule = now at received ⊢
    cases received with
    | refused _ _ _ closed => exact absurd ⟨admitting, by simp [connected]⟩ closed
    | rejected c' new' reason b connected' carried' unfit unaccepted =>
      obtain rfl := Option.some.inj (connected.symm.trans connected')
      obtain rfl := Option.some.inj (carried.symm.trans carried')
      exact ⟨by simp [unfit, unaccepted], by simp [unfit], fun admitted => absurd admitted unfit⟩
    | taken c' _ connected' admitted accepted setup heeds =>
      obtain rfl := Option.some.inj (connected.symm.trans connected')
      rw [carried, Option.getD_some] at admitted setup
      refine ⟨by simp [admitted, accepted], ?_, fun _ => setup⟩
      simp only [admitted, not_true, iff_false, not_exists]
      exact fun reason answered => (heeds _ answered).2 reason rfl
  · exact fun left => reached.wellFormed.resumed left schedule

/-- Two bytes that bring a format along. -/
def twoBytesOf (format : WaveFormat) : MediaSample := { data := [1, 2], format := some format }

/-- The stream on the ring of ten bytes, with a listener. -/
def tenBytesHeard : Renderer := Operation.listen.apply tenBytes

/-- A stream of 8 bits at 1000 frames per second goes over to twice the rate, but not to another
depth, of which the listener hears once. -/
theorem receive_atomic_of_two_formats :
    (tenBytesHeard.receive (twoBytesOf (.pcm 2000 1 8)) []).2.1.setup
        = ⟨some ⟨.pcm 2000 1 8, 2000, 10, 10⟩, 1, some [.formatChanged 1000 2000]⟩
      ∧ ∃ reason c b, tenBytesHeard.connection = some c
        ∧ (tenBytesHeard.receive (twoBytesOf (.pcm 2000 1 16)) []).2
          = ({ tenBytesHeard with
              connection := some (c.withBuffer b)
              inbox := some [.formatRejected reason] }, []) := by
  have reached : tenBytesHeard.Reachable := reachable_tenBytes.operate .listen
  constructor
  · obtain ⟨-, -, formats, -⟩ := reached.receive_atomic (twoBytesOf (.pcm 2000 1 8)) []
    obtain ⟨-, -, switches⟩ := formats _ _ rfl rfl ⟨rfl, rfl, nofun⟩
    exact switches (.inr ⟨rfl, rfl, rfl⟩)
  · obtain ⟨-, rejects, formats, -⟩ := reached.receive_atomic (twoBytesOf (.pcm 2000 1 16)) []
    obtain ⟨-, rejected, -⟩ := formats _ _ rfl rfl ⟨rfl, rfl, nofun⟩
    obtain ⟨reason, answered⟩ := rejected.2 <| by
      rintro (same | ⟨rates, -⟩)
      · exact absurd same (by decide)
      · exact absurd rates (by decide)
    obtain ⟨c, b, connected, -, left⟩ := rejects reason answered
    exact ⟨reason, c, b, connected, left⟩

end Renderer

end Playout
