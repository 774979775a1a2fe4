import Playout.Proofs.Session.Ring

/-!
# Streams without a clock

`Renderer.Untimed` is a running stream on a connection, without a clock and with hardware that
answers. Screening samples and moving the cursors leave it so, and leave its ring and its write
position alone. `Untimed.feedPass` says what a pass does to it: it never fails; it looks, and then
either waits or writes right behind the bytes that are queued.
-/

namespace Playout

/-- Moves the cursors, or lets time pass. -/
def Disturbance.moves : Disturbance → Bool
  | setCursor _ _ | advance _ | elapse _ => true
  | _ => false

/-! ### Buffers that answer -/

namespace SoundBuffer

theorem cursor_play (b : SoundBuffer) (looping : Bool) :
    (b.play looping).2.armed.cursor = b.armed.cursor := by
  unfold play
  split
  · rfl
  split <;> rfl

theorem cursor_armLevel (b : SoundBuffer) (on : Bool) :
    (b.armLevel on).armed.cursor = b.armed.cursor := by
  unfold armLevel
  split <;> rfl

theorem cursor_setVolume (b : SoundBuffer) (volume : Int) :
    (b.setVolume volume).2.armed.cursor = b.armed.cursor := by
  unfold setVolume
  split <;> rfl

theorem cursor_setPan (b : SoundBuffer) (pan : Int) :
    (b.setPan pan).2.armed.cursor = b.armed.cursor := by
  unfold setPan
  split <;> rfl

theorem cursor_setFrequency (b : SoundBuffer) (hz : Nat) :
    (b.setFrequency hz).2.armed.cursor = b.armed.cursor := by
  unfold setFrequency
  split
  · rfl
  split
  · rfl
  split
  · unfold freeze
    split <;> rfl
  · rfl

end SoundBuffer

namespace Renderer

/-- A running stream on a connection, without a clock and with hardware that answers. -/
structure Untimed (r : Renderer) (c : Connection) : Prop where
  connected : r.connection = some c
  valid : c.format.validate = .ok ()
  running : r.state = .running
  taking : r.ended = false ∧ r.flushing = false
  clockless : r.clockTime = none
  sound : c.tracker.view.Sound
  answering : c.tracker.ring.buffer.armed.cursor = false

/-- The stream goes on with the same ring and the same write position. -/
def Continues (c : Connection) (r : Renderer) : Prop :=
  ∃ c', r.Untimed c' ∧ c'.tracker.view = c.tracker.view
    ∧ c'.tracker.writePos = c.tracker.writePos

variable {r r' : Renderer} {c c' : Connection}

theorem Untimed.continues (u : r.Untimed c) : r.Continues c := ⟨c, u, rfl, rfl⟩

theorem Untimed.notify (u : r.Untimed c) (event : RenderEvent) : (r.notify event).Untimed c :=
  ⟨u.connected, u.valid, u.running, u.taking, u.clockless, u.sound, u.answering⟩

/-- The buffer may become another one that is alike and answers. -/
theorem Untimed.setBuffer (u : r.Untimed c) {b : SoundBuffer}
    (alike : c.tracker.ring.buffer.Alike b) (answering : b.armed.cursor = false) :
    (r.setBuffer b).Continues c := by
  have view : ({ c.tracker with ring := { c.tracker.ring with buffer := b } } :
      PositionTracker).view = c.tracker.view := by
    simp only [PositionTracker.view, alike.1, alike.2]
  refine ⟨{ c with tracker := { c.tracker with ring := { c.tracker.ring with buffer := b } } },
    ⟨?_, u.valid, u.running, u.taking, u.clockless, ?_, answering⟩, view, rfl⟩
  · rw [Renderer.setBuffer, u.connected, Option.map_some]
  · rw [view]
    exact u.sound

/-! ### Starting -/

/-- A stream without a clock runs once it has started. -/
theorem continues_of_start {origin : Ticks} (connected : r.connection = some c)
    (valid : c.format.validate = .ok ()) (unflushed : r.flushing = false)
    (clockless : r.clockTime = none) (sound : c.tracker.view.Sound)
    (answering : c.tracker.ring.buffer.armed.cursor = false)
    (stopped : r.state = .stopped) (started : r.start origin = (.ok (), r')) :
    r'.Continues c := by
  have there : (r.prepared origin).connection = some c := by
    rw [prepared_eq]
    exact connected
  have running : ({ r.prepared origin with state := .running } : Renderer).Untimed c := by
    rw [prepared_eq, if_pos stopped]
    exact ⟨connected, valid, rfl, ⟨rfl, unflushed⟩, clockless, sound, answering⟩
  obtain ⟨c', u, view, writePos⟩ := running.setBuffer (c.tracker.ring.buffer.alike_play true)
    ((SoundBuffer.cursor_play _ true).trans answering)
  cases Started.of_start started with
  | running running => cases stopped.symm.trans running
  | granted _ granted =>
    obtain ⟨b, asked, rfl⟩ := onTransport_of_connection there granted
    rw [asked] at u
    refine ⟨c', ?_, view, writePos⟩
    unfold conclude
    split
    · exact u.notify _
    · exact u

/-- A format that was just connected has a silent ring, and no write position. -/
theorem fresh_of_connect {format : WaveFormat} (unarmed : r.device.armed = {})
    (connected : r.connect format = (.ok (), r')) :
    ∃ c, r'.connection = some c ∧ c.format.validate = .ok () ∧ r'.state = .stopped
      ∧ (r'.flushing = r.flushing ∧ r'.clockTime = r.clockTime)
      ∧ c.tracker.view.Sound ∧ c.tracker.ring.buffer.armed.cursor = false
      ∧ c.tracker.view = c.tracker.view.clear ∧ c.tracker.writePos = none := by
  rcases connect_inv connected with ⟨-, refused⟩ | ⟨⟨valid, stopped, -⟩, buffer, _, created, rfl⟩
  · exact absurd rfl refused
  obtain ⟨silent, sound⟩ := view_freshTracker created
  obtain ⟨-, rfl, -⟩ := VirtualDevice.create_eq_ok created
  refine ⟨_, rfl, valid, stopped, ⟨rfl, rfl⟩, sound, ?_, silent, rfl⟩
  refine (SoundBuffer.cursor_setPan _ _).trans ((SoundBuffer.cursor_armLevel _ _).trans ?_)
  refine (SoundBuffer.cursor_setVolume _ _).trans ((SoundBuffer.cursor_armLevel _ _).trans ?_)
  exact congrArg ArmedLine.cursor unarmed

/-! ### Screening -/

theorem Untimed.take (u : r.Untimed c) (s : MediaSample) : (r.take s).2.Untimed c := by
  rw [take_eq]
  exact ⟨u.connected, u.valid, u.running, u.taking, u.clockless, u.sound, u.answering⟩

/-- A sample that is taken is fed with all of its data. -/
theorem data_of_take {s : MediaSample} {left : Feed} (h : (r.take s).1 = .feed left) :
    left.data = s.data := by
  unfold Renderer.take at h
  dsimp only at h
  split at h
  · cases h
  · cases h
    rfl

/-- The stream may change to another accepted format. -/
theorem Untimed.adopt (u : r.Untimed c) {new : WaveFormat} (valid : new.validate = .ok ()) :
    Continues c (r.adopt new) := by
  refine ⟨{ c with format := new },
    ⟨?_, valid, u.running, u.taking, u.clockless, u.sound, u.answering⟩, rfl, rfl⟩
  rw [Renderer.adopt, u.connected, Option.map_some]

theorem Untimed.renegotiate (u : r.Untimed c) (new : WaveFormat) :
    (r.renegotiate new).2.Continues c := by
  -- The hardware may refuse the new rate, but not without an answer.
  obtain ⟨c', u', view, writePos⟩ := u.setBuffer (c.tracker.ring.buffer.alike_setFrequency _)
    ((SoundBuffer.cursor_setFrequency _ new.sampleRate).trans u.answering)
  rcases changed : r.renegotiate new with ⟨answer, r'⟩
  cases Negotiated.of_renegotiate changed with
  | disconnected | same => exact u.continues
  | unfit => exact (u.notify _).continues
  | relabelled _ suits => exact u.adopt suits.valid
  | refused _ _ _ refused =>
    obtain ⟨b, asked, rfl⟩ := onTransport_of_connection u.connected refused
    rw [asked] at u'
    exact ⟨c', u'.notify _, view, writePos⟩
  | granted _ suits _ granted =>
    obtain ⟨b, asked, rfl⟩ := onTransport_of_connection u.connected granted
    rw [asked] at u'
    obtain ⟨c'', u'', view', writePos'⟩ := (u'.notify _).adopt suits.valid
    exact ⟨c'', u'', view'.trans view, writePos'.trans writePos⟩

/-- Screening a sample changes nothing about the ring. -/
theorem Untimed.screen (u : r.Untimed c) (s : MediaSample) : (r.screen s).2.Continues c := by
  rcases screened : r.screen s with ⟨answer, r'⟩
  cases Decided.of_screen screened with
  | declined | stopped | disconnected => exact u.continues
  | kept => exact (u.take s).continues
  | rejected new _ _ rejected =>
    have continues := u.renegotiate new
    rwa [rejected] at continues
  | agreed new _ _ _ agreed =>
    obtain ⟨c', u', view, writePos⟩ := u.renegotiate new
    rw [agreed] at u'
    exact ⟨c', u'.take s, view, writePos⟩

theorem data_of_screen {s : MediaSample} {left : Feed}
    (h : (r.screen s).1 = .ok (.feed left)) :
    left.data = s.data := by
  rcases screened : r.screen s with ⟨answer, r'⟩
  rw [screened] at h
  cases Decided.of_screen screened with
  | declined | stopped | disconnected | rejected => cases h
  | kept | agreed => exact data_of_take (Except.ok.inj h)

/-! ### Motion -/

/-- The stream has no clock that could run on. -/
theorem Untimed.elapse (u : r.Untimed c) (nanoseconds : Nat) :
    { r with referenceClock := r.referenceClock.elapse nanoseconds }.Untimed c := by
  refine ⟨u.connected, u.valid, u.running, u.taking, ?_, u.sound, u.answering⟩
  have clockless := u.clockless
  unfold clockTime at *
  dsimp only
  split
  · rfl
  · next manual =>
    rw [manual] at clockless
    exact clockless
  · next reference =>
    rw [reference] at clockless
    cases clockless

theorem disturb_of_moves {act : Disturbance} (moves : act.moves = true)
    (connected : r.connection = some c) :
    r.disturb act = (match act with
      | .elapse nanoseconds => { r with referenceClock := r.referenceClock.elapse nanoseconds }
      | _ => r).setBuffer (act.onBuffer c.tracker.ring.buffer) := by
  rcases r with ⟨_, _, _, _ | c'⟩
  · cases connected
  obtain rfl : c' = c := Option.some.inj connected
  cases act with
  | setCursor | advance | elapse => rfl
  | _ => cases moves

theorem Untimed.disturb (u : r.Untimed c) {act : Disturbance} (moves : act.moves = true) :
    (r.disturb act).Continues c := by
  rw [disturb_of_moves moves u.connected]
  cases act with
  | setCursor play write => exact u.setBuffer ⟨rfl, rfl⟩ u.answering
  | advance n => exact u.setBuffer ⟨rfl, rfl⟩ u.answering
  | elapse nanoseconds => exact (u.elapse nanoseconds).setBuffer ⟨rfl, rfl⟩ u.answering
  | _ => cases moves

theorem Continues.disturbAll {acts : List Disturbance} (continues : r.Continues c)
    (moves : acts.all Disturbance.moves = true) :
    (r.disturbAll acts).Continues c := by
  induction acts generalizing r with
  | nil => exact continues
  | cons act acts ih =>
    rw [List.all_cons, Bool.and_eq_true] at moves
    obtain ⟨c', u, view, writePos⟩ := continues
    obtain ⟨c'', u', view', writePos'⟩ := u.disturb moves.1
    exact ih ⟨c'', u', view'.trans view, writePos'.trans writePos⟩ moves.2

theorem Untimed.atReading (u : r.Untimed c) {acts : List Disturbance}
    (moves : acts.all Disturbance.moves = true) :
    (r.atReading acts).Continues c := by
  unfold Renderer.atReading
  split
  · exact u.continues
  · exact u.continues.disturbAll moves

/-! ### Passes -/

theorem Untimed.setTracker (u : r.Untimed c) {t : PositionTracker} (sound : t.view.Sound)
    (answering : t.ring.buffer.armed.cursor = false) :
    (r.setTracker t).Untimed { c with tracker := t } := by
  refine ⟨?_, u.valid, u.running, u.taking, u.clockless, sound, answering⟩
  rw [Renderer.setTracker, u.connected, Option.map_some]

theorem Untimed.count (u : r.Untimed c) (stats : RenderStats) : { r with stats }.Untimed c :=
  ⟨u.connected, u.valid, u.running, u.taking, u.clockless, u.sound, u.answering⟩

theorem Untimed.answer_eq (u : r.Untimed c) :
    c.tracker.answer = some c.tracker.ring.buffer.position := by
  rw [PositionTracker.answer, if_neg (by simp [u.answering])]

/-- A plan without a time is a place right behind the queued bytes, or to wait. -/
theorem Untimed.plan_eq (u : r.Untimed c) (p : WritePlanner) :
    p.plan c.tracker c.format none
      = (.ok (p.finish c.format c.tracker.ring.buffer.position.play c.tracker.size
            (c.tracker.found false c.tracker.ring.buffer.position).sequential 0 0,
          c.tracker.found false c.tracker.ring.buffer.position),
        c.tracker.looked false c.tracker.ring.buffer.position) := by
  have rate := Nat.ne_of_gt (WaveFormat.byteRate_pos_of_validate u.valid)
  have looked := PositionTracker.refresh_eq false u.sound u.answering
  exact WritePlanner.plan_eq_ok.2 ⟨looked, rate, rfl⟩

/-- The place right behind the queued bytes, up to the play cursor. -/
def followingChunk (t : PositionTracker) (cursor : Cursor) : Chunk where
  target := (t.found false cursor).sequential
  free := distance (t.found false cursor).sequential cursor.play t.size
  skip := 0

/-- A plan of an untimed stream looks at the hardware; then it is to wait, or to write right behind
the queued bytes. -/
theorem Untimed.planChunk (u : r.Untimed c) {acts : List Disturbance}
    (at' : (r.atReading acts).Untimed c') (writeAt : Option Ticks) (rest : Schedule) :
    ∃ chunk r', r.planChunk writeAt (acts :: rest) = (.ok chunk, r', rest)
      ∧ (∀ place ∈ chunk, place = followingChunk c'.tracker c'.tracker.ring.buffer.position)
      ∧ r'.Untimed
        { c' with tracker := c'.tracker.looked false c'.tracker.ring.buffer.position } := by
  -- Whatever the plan is, the look before it has left the stream untimed.
  have looked : ((r.atReading acts).setTracker
      (c'.tracker.looked false c'.tracker.ring.buffer.position)).Untimed
      { c' with tracker := c'.tracker.looked false c'.tracker.ring.buffer.position } :=
    at'.setTracker (at'.sound.look _) at'.answering
  have plan_eq := at'.plan_eq r.planner
  generalize finished : WritePlanner.finish .. = plan at plan_eq
  unfold Renderer.planChunk
  rw [timing_of_clockless u.clockless]
  dsimp only
  rw [if_neg (by simp [Renderer.connected, u.connected]), look_of_ok at'.connected plan_eq]
  cases plan with
  | ready target free skip gap =>
    obtain ⟨rfl, rfl, rfl, rfl, -⟩ := WritePlanner.finish_eq_ready finished
    refine ⟨some _, _, rfl, ?_, looked.count _⟩
    rintro _ ⟨⟩
    rfl
  | blocked reason => exact ⟨none, _, rfl, by simp, looked.count _⟩

/-- Writing at a place with less than a lap of room writes that much of the data. -/
theorem Untimed.writeChunk (u : r.Untimed c) {data : List UInt8} (more : data ≠ [])
    {place : Chunk} (whole : place.skip = 0) (room : place.free < c.tracker.size) :
    (r.writeChunk data place).1 = .proceed { data := data.drop place.free, writeAt := none }
      ∧ (r.writeChunk data place).2.Untimed
        { c with tracker := c.tracker.committed place.target (data.take place.free) } := by
  have length_pos := List.length_pos_iff.2 more
  have tracked := tracker_of_connection u.connected
  unfold Renderer.writeChunk
  dsimp only
  rw [whole, if_neg (by omega)]
  split
  · next untracked => cases tracked.symm.trans untracked
  next t tracked' =>
  obtain rfl := Option.some.inj (tracked.symm.trans tracked')
  rw [List.drop_zero, c.tracker.commit_eq u.sound]
  dsimp only
  refine ⟨?_, ?_⟩
  · have covered := length_split place.target (data.take place.free).length c.tracker.size
    rw [List.length_take] at covered ⊢
    congr 2
    rw [covered, List.drop_eq_drop_iff]
    omega
  · have sound : (c.tracker.committed place.target (data.take place.free)).view.Sound :=
      u.sound.write _ _
    exact ((u.count _).setTracker sound u.answering).count _

/-- A pass of an untimed stream does not fail. It looks at the hardware; then it waits, or writes
right behind the queued bytes what there is room for. -/
theorem Untimed.feedPass (u : r.Untimed c) {acts : List Disturbance}
    (at' : (r.atReading acts).Untimed c') {left : Feed} (more : left.data ≠ [])
    (rest : Schedule) :
    ∃ outcome r', r.feedPass left (acts :: rest) = (outcome, r', rest)
      ∧ (outcome = .wait left
          ∧ (Operation.feed left (acts :: rest)).commitment r = none
          ∧ r'.Untimed
            { c' with tracker := c'.tracker.looked false c'.tracker.ring.buffer.position }
        ∨ ∃ place, place = followingChunk c'.tracker c'.tracker.ring.buffer.position
          ∧ outcome = .proceed { data := left.data.drop place.free, writeAt := none }
          ∧ (Operation.feed left (acts :: rest)).commitment r
            = some (place.target, left.data.take place.free)
          ∧ r'.Untimed { c' with
            tracker := (c'.tracker.looked false c'.tracker.ring.buffer.position).committed
              place.target (left.data.take place.free) }) := by
  have busy : ¬(left.data.isEmpty ∨ r.state ≠ .running) := by simp [more, u.running]
  obtain ⟨chunk, r', planned, following, u'⟩ := u.planChunk at' left.writeAt rest
  have commitment : (Operation.feed left (acts :: rest)).commitment r
      = chunk.bind (Renderer.placed left.data) := by
    rw [Operation.commitment_feed busy, planned]
    cases chunk <;> rfl
  rw [feedPass_of_not_idle busy, planned, commitment]
  match chunk with
  | none => exact ⟨_, _, rfl, .inl ⟨rfl, rfl, u'.count _⟩⟩
  | some place =>
    obtain rfl := following place rfl
    have room : (followingChunk c'.tracker c'.tracker.ring.buffer.position).free
        < c'.tracker.size := distance_lt at'.sound.pos _ _
    obtain ⟨outcome, u''⟩ := u'.writeChunk more rfl room
    refine ⟨_, _, rfl, .inr ⟨_, rfl, outcome, ?_, u''⟩⟩
    have skip : (followingChunk c'.tracker c'.tracker.ring.buffer.position).skip = 0 := rfl
    rw [Option.bind_some, Renderer.placed, skip, if_neg (by simpa using more), List.drop_zero]

end Renderer

end Playout
