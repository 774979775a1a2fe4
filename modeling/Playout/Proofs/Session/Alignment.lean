import Playout.Proofs.Session.Admission
import Playout.Proofs.Session.Frames
import Playout.Proofs.Session.Traffic
import Playout.Proofs.Session.Untimed

/-!
# Traffic in whole frames

Samples of whole frames are handed over, and whenever the hardware is asked it stands at the
beginning of a frame. Then everything on the ring is in whole frames, whatever the timing, the
interruptions and the failures: the positions that are kept, the places that are planned, and what
is silenced and committed (`Traffic.Run.keepsFrames`).

There is one exception. A call that waits has nothing of its connection: it goes on with what it has
left on the connection that it finds. If the stream was stopped and has got another connection
meanwhile, on which it runs, what is left of whole frames of the old format need not be whole frames
of the new one, and from then on every byte is out of its place (`Traffic.shifted_by_leftover`). So
the theorem asks of a new connection that its frames fit what the calls under way have left.

## Design points

* **A rule for deeds.** `Traffic.Run` is the traffic that comes about while a rule is kept. The
  exception keeps `Deed.Whole`; the theorem is about those that keep `Deed.Fits` as well.
-/

namespace Playout

/-! ### What is left of the samples -/

/-- What a call under way has left of its sample. -/
def Stage.left? : Stage → Option Feed
  | feed left | wake left => some left
  | drain | finish _ => none

/-- What the calls under way have left of their samples. -/
def Traffic.lefts (s : Traffic) : List Feed := s.calls.filterMap Stage.left?

namespace Onward

/-- What a call has left that goes on. -/
def lefts (onward : Onward) : List Feed := onward.stages.filterMap Stage.left?

theorem lefts_ofPass (outcome : PassEnd) : (ofPass outcome).lefts = outcome.left?.toList := by
  rcases outcome with ⟨_ | _⟩ | left | left <;> rfl

theorem lefts_ofDrain (outcome : DrainEnd) : (ofDrain outcome).lefts = [] := by
  cases outcome <;> rfl

theorem lefts_ofFinish (answer : Except RenderError Unit) : (ofFinish answer).lefts = [] := by
  cases answer <;> rfl

end Onward

/-- What a call has left once it has held the renderer, a pass over what it had left before has
left. -/
theorem Stage.lefts_go {stage : Stage} {r : Renderer} {schedule : Schedule} {later : Feed}
    (left_over : later ∈ (stage.go r schedule).1.lefts) :
    ∃ left, stage.operation r schedule = some (.feed left schedule)
      ∧ later ∈ (r.feedPass left schedule).1.left? := by
  cases stage with
  | feed left =>
    rw [go, Onward.lefts_ofPass, Option.mem_toList] at left_over
    exact ⟨left, rfl, left_over⟩
  | wake left =>
    cases woken : r.feedWake with
    | some result =>
      rw [go, woken, Onward.lefts_ofPass] at left_over
      cases left_over
    | none =>
      rw [go, woken, Onward.lefts_ofPass, Option.mem_toList] at left_over
      exact ⟨left, by simp [operation, woken], left_over⟩
  | drain =>
    rw [go, Onward.lefts_ofDrain] at left_over
    cases left_over
  | finish drained =>
    rw [go, Onward.lefts_ofFinish] at left_over
    cases left_over

/-! ### Rules -/

/-- Samples of whole frames are handed over, and the hardware is found at the beginning of one. -/
structure Deed.Whole (deed : Deed) (s : Traffic) : Prop where
  sample : ∀ sample, deed = .receive sample →
    ∀ c ∈ s.renderer.connection, c.format.blockAlign ∣ sample.data.length
  cursors : ∀ op ∈ s.operation deed, ∀ cursor ∈ op.reading s.renderer, s.renderer.Reads cursor

/-- A new connection is one whose frames fit what the calls under way have left. -/
def Deed.Fits (deed : Deed) (s : Traffic) : Prop :=
  ∀ format, s.operation deed = some (.connect format) →
    ∀ left ∈ s.lefts, format.blockAlign ∣ left.data.length

/-- The traffic that comes about while every deed is allowed. -/
inductive Traffic.Run (Allowed : Deed → Traffic → Prop) : Traffic → Prop
  | create {device : VirtualDevice} {config : RendererConfig} {r : Renderer}
      (created : Renderer.create device config = .ok r) :
      Run Allowed ⟨r, []⟩
  | perform {s : Traffic} (run : Run Allowed s) (deed : Deed) (allowed : Allowed deed s) :
      Run Allowed (s.perform deed).2

namespace Traffic

variable {s : Traffic} {deed : Deed} {c : Connection}

/-- A renderer in whole frames, with calls that have whole frames left. -/
structure InFrames (s : Traffic) : Prop where
  renderer : s.renderer.InFrames
  lefts : ∀ c ∈ s.renderer.connection, ∀ left ∈ s.lefts, c.format.blockAlign ∣ left.data.length

/-- What a call feeds, it has left. -/
theorem mem_lefts_of_operation {left : Feed} {schedule : Schedule}
    (feeds : s.operation deed = some (.feed left schedule)) : left ∈ s.lefts := by
  cases deed with
  | operate op outside =>
    cases feeds
    cases outside
  | receive | endOfStream => cases feeds
  | go i rest =>
    obtain ⟨stage, under, feeds⟩ := Option.bind_eq_some_iff.1 feeds
    refine List.mem_filterMap.2 ⟨stage, List.mem_of_getElem? under, ?_⟩
    cases stage with
    | feed later =>
      cases feeds
      rfl
    | wake later =>
      unfold Stage.operation at feeds
      dsimp only at feeds
      split at feeds
      · cases feeds
      · cases feeds
        rfl
    | drain | finish => cases feeds

/-- What is left after a deed was left before, is a sample that was handed over, or is what a pass
has left. -/
theorem mem_lefts_perform {later : Feed} (left_over : later ∈ (s.perform deed).2.lefts) :
    later ∈ s.lefts ∨ (∃ sample, deed = .receive sample ∧ later.data = sample.data)
      ∨ ∃ left schedule, s.operation deed = some (.feed left schedule)
        ∧ later ∈ (s.renderer.feedPass left schedule).1.left? := by
  cases deed with
  | operate => exact .inl left_over
  | endOfStream =>
    refine .inl ?_
    simpa [perform, lefts, Stage.left?] using left_over
  | receive sample =>
    simp only [perform, lefts, List.filterMap_append, List.mem_append] at left_over
    refine left_over.imp_right fun handed => .inl ⟨sample, rfl, ?_⟩
    rcases screened : (s.renderer.screen sample).1 with _ | _ | left <;> rw [screened] at handed
    · cases handed
    · cases handed
    · obtain rfl := List.mem_singleton.1 handed
      exact Renderer.data_of_screen screened
  | go i schedule =>
    simp only [perform] at left_over
    cases under : s.calls[i]? with
    | none =>
      rw [under] at left_over
      exact .inl left_over
    | some stage =>
      rw [under] at left_over
      simp only [lefts, List.filterMap_append, List.mem_append] at left_over
      rcases left_over with (before | goes_on) | behind
      · exact .inl ((List.take_sublist i _).filterMap _ |>.mem before)
      · obtain ⟨left, feeds, there⟩ := Stage.lefts_go goes_on
        refine .inr (.inr ⟨left, schedule, ?_, there⟩)
        rwa [operation, under, Option.bind_some]
      · exact .inl ((List.drop_sublist _ _).filterMap _ |>.mem behind)

/-! ### One deed -/

/-- The renderer stays in whole frames. -/
theorem InFrames.renderer_perform (frames : s.InFrames) (whole : deed.Whole s) :
    (s.perform deed).2.renderer.InFrames := by
  rw [Traffic.renderer_perform]
  cases operated : s.operation deed with
  | none => exact frames.renderer
  | some op =>
    refine frames.renderer.apply (whole.cursors op operated) ?_
    rintro left schedule rfl c connected
    exact frames.lefts c connected left (mem_lefts_of_operation operated)

/-- The frame and the ring of a connection stay for as long as it does. -/
theorem InFrames.geometry (frames : s.InFrames) (connected : s.renderer.connection = some c) :
    ∀ c' ∈ (s.perform deed).2.renderer.connection,
      c'.format.blockAlign = c.format.blockAlign ∧ c'.tracker.size = c.tracker.size := by
  rw [Traffic.renderer_perform]
  cases s.operation deed with
  | none =>
    intro c' connected'
    obtain rfl := Option.some.inj (connected.symm.trans connected')
    exact ⟨rfl, rfl⟩
  | some op => exact frames.renderer.formed.geometry_apply connected op

/-- What is left of a sample is left from the beginning of a frame on. -/
theorem InFrames.remaining (frames : s.InFrames) (connected : s.renderer.connection = some c)
    (whole : deed.Whole s) {later : Feed} (left_over : later ∈ (s.perform deed).2.lefts) :
    (∃ sample, deed = .receive sample ∧ later.data = sample.data)
      ∨ ∃ left ∈ s.lefts, left.After c.format.blockAlign later := by
  rcases mem_lefts_perform left_over with before | handed | ⟨left, schedule, feeds, there⟩
  · exact .inr ⟨later, before, later.after_refl _⟩
  · exact .inl handed
  have before := mem_lefts_of_operation feeds
  refine .inr ⟨left, before, ?_⟩
  obtain ⟨-, laters⟩ := frames.renderer.feedPass (whole.cursors _ feeds)
    fun c' connected' => frames.lefts c' connected' left before
  rcases laters later there with rfl | ⟨c', connected', after⟩
  · exact later.after_refl _
  · obtain rfl := Option.some.inj (connected.symm.trans connected')
    exact after

/-- No deed leads out of whole frames while the rules are kept. -/
theorem InFrames.perform (frames : s.InFrames) (whole : deed.Whole s) (fits : deed.Fits s) :
    (s.perform deed).2.InFrames := by
  refine ⟨frames.renderer_perform whole, fun c' connected' later left_over => ?_⟩
  cases connected : s.renderer.connection with
  | some c =>
    rw [(frames.geometry connected c' connected').1]
    rcases frames.remaining connected whole left_over with ⟨sample, rfl, same⟩ |
      ⟨left, before, after⟩
    · exact same ▸ whole.sample sample rfl c connected
    · exact after.whole (frames.lefts c connected left before)
  | none =>
    -- The connection is a new one, and the calls under way were not touched.
    have renderer := s.renderer_perform deed
    cases operated : s.operation deed with
    | none =>
      rw [operated] at renderer
      rw [renderer] at connected'
      cases connected.symm.trans connected'
    | some op =>
      rw [operated] at renderer
      rw [renderer] at connected'
      obtain rfl := frames.renderer.formed.eq_connect connected connected'
      refine fits _ operated later ?_
      rcases mem_lefts_perform left_over with before | ⟨sample, rfl, -⟩ | ⟨left, schedule, feeds, -⟩
      · exact before
      · cases operated
      · cases operated.symm.trans feeds

theorem Run.inFrames (run : Run (fun deed s => deed.Whole s ∧ deed.Fits s) s) : s.InFrames := by
  induction run with
  | create created =>
    have formed := Renderer.wellFormed_of_create created
    obtain ⟨-, rfl⟩ := Renderer.create_inv created
    exact ⟨⟨formed, fun c connected => absurd connected (Option.not_mem_none c)⟩,
      fun c connected => absurd connected (Option.not_mem_none c)⟩
  | perform run deed allowed frames => exact frames.perform allowed.1 allowed.2

end Traffic

/-! ### Everything in whole frames -/

/-- A connection on a ring of whole frames that is as large as the buffer that holds it, with the
positions that are kept on it, each at the beginning of a frame. -/
structure Connection.InFrames (c : Connection) : Prop where
  frame_pos : 0 < c.format.blockAlign
  size_pos : 0 < c.tracker.size
  size : c.format.blockAlign ∣ c.tracker.size
  buffer_size : c.tracker.ring.buffer.size = c.tracker.size
  lastPlay : c.tracker.lastPlay < c.tracker.size ∧ c.format.blockAlign ∣ c.tracker.lastPlay
  writePos : ∀ write ∈ c.tracker.writePos,
    write < c.tracker.size ∧ c.format.blockAlign ∣ write

namespace Traffic

variable {s : Traffic} {deed : Deed} {c : Connection}

/-- What a deed does on the ring of a connection is in whole frames. Every offset that a distance is
taken from lies on the ring: that is why the difference is never negative. -/
structure KeepsFrames (s : Traffic) (deed : Deed) (c : Connection) : Prop where
  geometry : ∀ c' ∈ (s.perform deed).2.renderer.connection,
    c'.format.blockAlign = c.format.blockAlign ∧ c'.tracker.size = c.tracker.size
  /-- What was played since the last reading, and is silenced at this one. -/
  silenced : ∀ op ∈ s.operation deed, ∀ cursor ∈ op.reading s.renderer,
    cursor.play < c.tracker.size ∧ cursor.write < c.tracker.size
      ∧ c.format.blockAlign ∣ distance c.tracker.lastPlay cursor.play c.tracker.size
  /-- What is planned once the outside has acted, at whatever time. -/
  planned : ∀ left acts rest, s.operation deed = some (.feed left (acts :: rest)) →
    ((Operation.feed left (acts :: rest)).reading s.renderer).isSome →
    ∀ c₀ ∈ (s.renderer.atReading acts).connection, ∀ timing plan positions t,
      s.renderer.planner.plan c₀.tracker c₀.format timing = (.ok (plan, positions), t) →
      positions.sequential < c.tracker.size ∧ positions.minimum < c.tracker.size
        ∧ plan.InFrames c.format.blockAlign c.tracker.size
  /-- What is committed is part of what a call had left, from the beginning of a frame on, and each
  of its bytes comes to its place in a frame. -/
  committed : ∀ op ∈ s.operation deed, ∀ offset data,
    op.commitment s.renderer = some (offset, data) →
    offset < c.tracker.size ∧ data.length ≤ c.tracker.size
      ∧ c.format.blockAlign ∣ offset ∧ c.format.blockAlign ∣ data.length
      ∧ (∃ left ∈ s.lefts, ∃ k, c.format.blockAlign ∣ k ∧ data <+: left.data.drop k)
      ∧ ∀ k, (offset + k) % c.tracker.size % c.format.blockAlign = k % c.format.blockAlign
  /-- What is left of a sample begins with a frame. -/
  remaining : ∀ later ∈ (s.perform deed).2.lefts,
    (∃ sample, deed = .receive sample ∧ later.data = sample.data)
      ∨ ∃ left ∈ s.lefts, left.After c.format.blockAlign later
  /-- No lock fails that was not made to fail, and the arithmetic only where a word is too short for
  a time, or for a place on the ring. -/
  refused : ∀ e, (s.perform deed).1 = .returned (.error e)
      ∨ deed = .operate .endFlush rfl ∧ (s.perform deed).1 = .answer (.error e) →
    e.Blames (∃ op ∈ s.operation deed, op.Refused s.renderer)

theorem InFrames.connection (frames : s.InFrames) (connected : s.renderer.connection = some c) :
    c.InFrames := by
  obtain ⟨valid, seated, -⟩ := frames.renderer.formed.connection c connected
  obtain ⟨size, lastPlay, writePos⟩ := frames.renderer.marks c connected
  exact ⟨WaveFormat.blockAlign_pos_of_validate valid, seated.pos, size, seated.spans.size_eq,
    ⟨seated.lastPlay_lt, lastPlay⟩,
    fun write there => ⟨seated.writePos_lt write there, writePos write there⟩⟩

theorem InFrames.committed (frames : s.InFrames) (connected : s.renderer.connection = some c)
    (whole : deed.Whole s) {op : Operation} (operated : s.operation deed = some op) {offset : Nat}
    {data : List UInt8} (commits : op.commitment s.renderer = some (offset, data)) :
    offset < c.tracker.size ∧ data.length ≤ c.tracker.size
      ∧ c.format.blockAlign ∣ offset ∧ c.format.blockAlign ∣ data.length
      ∧ (∃ left ∈ s.lefts, ∃ k, c.format.blockAlign ∣ k ∧ data <+: left.data.drop k)
      ∧ ∀ k, (offset + k) % c.tracker.size % c.format.blockAlign = k % c.format.blockAlign := by
  have size := (frames.renderer.marks c connected).size
  obtain ⟨cursor, read, offset_lt, room⟩ :=
    Operation.room_of_commitment frames.renderer.formed connected commits
  have lap := distance_lt (Nat.zero_lt_of_lt offset_lt) offset cursor.play
  cases op with
  | feed left schedule =>
    have before := mem_lefts_of_operation operated
    obtain ⟨whole_offset, whole_data, part⟩ := frames.renderer.commitment connected
      (whole.cursors _ operated) (frames.lefts c connected left before) commits
    exact ⟨offset_lt, by omega, whole_offset, whole_data, ⟨left, before, part⟩,
      place_in_frame size whole_offset⟩
  | _ => cases commits

theorem InFrames.planned (frames : s.InFrames) (connected : s.renderer.connection = some c)
    (whole : deed.Whole s) {left : Feed} {acts : List Disturbance} {rest : Schedule}
    (feeds : s.operation deed = some (.feed left (acts :: rest)))
    (reads : ((Operation.feed left (acts :: rest)).reading s.renderer).isSome) {c₀ : Connection}
    (connected₀ : (s.renderer.atReading acts).connection = some c₀) {timing : Option Timing}
    {plan : WritePlan} {positions : Positions} {t : PositionTracker}
    (planned : s.renderer.planner.plan c₀.tracker c₀.format timing
      = (.ok (plan, positions), t)) :
    positions.sequential < c.tracker.size ∧ positions.minimum < c.tracker.size
      ∧ plan.InFrames c.format.blockAlign c.tracker.size := by
  have read := whole.cursors _ feeds
  by_cases idle : left.data.isEmpty ∨ s.renderer.state ≠ .running
  · rw [Operation.reading_feed_of_idle idle] at reads
    cases reads
  rw [Operation.reading_feed idle] at read reads
  obtain ⟨cursor, there⟩ := Option.isSome_iff_exists.1 reads
  have answered := Renderer.answer_of_planAnswer there
  have read : ∀ cursor ∈ s.renderer.answer (acts :: rest), s.renderer.Reads cursor := by
    intro cursor' answered'
    obtain rfl := Option.some.inj (answered.symm.trans answered')
    exact read _ there
  obtain ⟨c', connected', lasts⟩ := (s.renderer.persists_atReading acts).connection c₀ connected₀
  obtain rfl := Option.some.inj (connected.symm.trans connected')
  have disturbed := frames.renderer.persists (s.renderer.persists_atReading acts)
  obtain ⟨valid, seated, -⟩ := disturbed.formed.connection c₀ connected₀
  rw [← lasts.blockAlign_eq, ← lasts.size_eq]
  exact seated.plan_inFrames (WaveFormat.blockAlign_pos_of_validate valid)
    (disturbed.marks c₀ connected₀) (Renderer.reads_atReading read connected₀) planned

/-- A sample is refused for what it is, or for the state of the stream. -/
theorem blames_screen {r : Renderer} (formed : r.WellFormed) (sample : MediaSample)
    {e : RenderError} (failed : (r.screen sample).1 = .error e) (refusing : Prop) :
    e.Blames refusing := by
  have screened := formed.screened sample
  rcases answered : r.screen sample with ⟨answer, r'⟩
  rw [answered] at screened failed
  cases screened with
  | declined | taken => cases failed
  | wrongState | notConnected | rejected =>
    cases failed
    exact ⟨nofun, nofun⟩

/-- A call that fails when it holds the renderer blames the operation that it makes then. -/
theorem blames_go {r : Renderer} (formed : r.WellFormed) {stage : Stage} {schedule : Schedule}
    {e : RenderError} (failed : (stage.go r schedule).1 = .returned (.error e)) :
    e.Blames (∃ op ∈ stage.operation r schedule, op.Refused r) := by
  have fed (left : Feed)
      (failed : Onward.ofPass (r.feedPass left schedule).1 = .returned (.error e)) :
      e.Blames ((Operation.feed left schedule).Refused r) := by
    rcases passed : r.feedPass left schedule with ⟨⟨_ | _⟩ | _ | _, r', rest⟩ <;>
      rw [passed] at failed <;> cases failed
    exact formed.blames_feedPass passed
  cases stage with
  | feed left => exact (fed left failed).mono fun armed => ⟨_, rfl, armed⟩
  | wake left =>
    cases woken : r.feedWake with
    | none =>
      rw [Stage.go, woken] at failed
      exact (fed left failed).mono fun armed => ⟨_, by simp [Stage.operation, woken], armed⟩
    | some result =>
      rw [Stage.go, woken] at failed
      rcases result with e' | _ <;> cases failed
      obtain rfl := Renderer.eq_wrongState_of_feedWake woken
      exact RenderError.blames_wrongState
  | drain =>
    rw [Stage.go] at failed
    rcases passed : r.drainPass schedule with ⟨_ | _ | _ | _, r', rest⟩ <;>
      rw [passed] at failed <;> cases failed
    exact (formed.blames_drainPass passed).mono fun armed => ⟨_, rfl, armed⟩
  | finish drained =>
    rw [Stage.go] at failed
    rcases silenced : (r.finishEnd drained).1 with _ | _ <;> rw [silenced] at failed <;>
      cases failed
    exact (formed.blames_finishEnd silenced).mono fun armed => ⟨_, rfl, armed⟩

theorem InFrames.refused (frames : s.InFrames) {e : RenderError}
    (failed : (s.perform deed).1 = .returned (.error e)
      ∨ deed = .operate .endFlush rfl ∧ (s.perform deed).1 = .answer (.error e)) :
    e.Blames (∃ op ∈ s.operation deed, op.Refused s.renderer) := by
  have formed := frames.renderer.formed
  cases deed with
  | operate op outside =>
    rcases failed with returned | ⟨flushed, answered⟩
    · cases op <;> cases returned
    · cases flushed
      have failed : s.renderer.endFlush.1 = .error e := Reply.answer.inj answered
      exact (formed.blames_endFlush failed).mono fun armed => ⟨_, rfl, armed⟩
  | endOfStream =>
    rcases failed with returned | ⟨⟨⟩, -⟩
    cases returned
  | receive sample =>
    rcases failed with returned | ⟨⟨⟩, -⟩
    refine blames_screen formed sample ?_ _
    rcases screened : (s.renderer.screen sample).1 with _ | _ | _ <;>
      simp_all [Traffic.perform, Onward.ofScreen, Onward.reply]
  | go i schedule =>
    simp only [Traffic.perform, operation] at failed ⊢
    cases under : s.calls[i]? with
    | none =>
      rw [under] at failed
      rcases failed with returned | ⟨⟨⟩, -⟩
      cases returned
    | some stage =>
      rw [under] at failed
      rcases failed with returned | ⟨⟨⟩, -⟩
      refine blames_go formed ?_
      rcases went : (stage.go s.renderer schedule).1 with result | next <;>
        simp_all [Onward.reply]

/-- While samples of whole frames are handed over, the hardware is found at the beginning of frames,
and every new connection is one whose frames fit what the calls under way have left: the connection
is in whole frames, and so is whatever the next deed does on its ring. No lock fails that was not
made to fail. -/
theorem Run.keepsFrames (run : Run (fun deed s => deed.Whole s ∧ deed.Fits s) s)
    (connected : s.renderer.connection = some c) :
    c.InFrames ∧ ∀ deed : Deed, deed.Whole s → s.KeepsFrames deed c := by
  have frames := run.inFrames
  refine ⟨frames.connection connected, fun deed whole => ?_⟩
  exact
    { geometry := frames.geometry connected
      silenced := fun op operated cursor read =>
        ⟨(frames.renderer.formed.reading_lt connected read).1,
          (frames.renderer.formed.reading_lt connected read).2,
          dvd_distance (frames.renderer.marks c connected).size
            (frames.renderer.marks c connected).lastPlay
            (whole.cursors op operated cursor read c connected).play⟩
      planned := fun left acts rest feeds reads c₀ connected₀ timing plan positions t planned =>
        frames.planned connected whole feeds reads connected₀ planned
      committed := fun op operated offset data commits =>
        frames.committed connected whole operated commits
      remaining := fun later left_over => frames.remaining connected whole left_over
      refused := fun e failed => frames.refused failed }

/-! ### Eight bits and sixteen -/

def eightBits : WaveFormat := .pcm 1000 1 8

def sixteenBits : WaveFormat := .pcm 1000 1 16

/-- A deed of a controller or of the outside hands over nothing and reads nothing. -/
theorem whole_operate (op : Operation) (outside : op.isOutside = true) (s : Traffic) :
    (Deed.operate op outside).Whole s := by
  refine ⟨nofun, ?_⟩
  rintro op ⟨⟩ cursor read
  cases op with
  | feed | drain => cases outside
  | _ => cases read

theorem whole_receive {sample : MediaSample} (connected : s.renderer.connection = some c)
    (whole : c.format.blockAlign ∣ sample.data.length) : (Deed.receive sample).Whole s := by
  constructor
  · rintro _ ⟨⟩ c' connected'
    obtain rfl := Option.some.inj (connected.symm.trans connected')
    exact whole
  · rintro op ⟨⟩ cursor ⟨⟩

theorem whole_go {i : Nat} {schedule : Schedule} {op : Operation} {cursor : Cursor}
    (operated : s.operation (.go i schedule) = some op)
    (read : op.reading s.renderer = some cursor) (connected : s.renderer.connection = some c)
    (in_frames : cursor.InFrames c.format.blockAlign) : (Deed.go i schedule).Whole s := by
  refine ⟨nofun, fun op' operated' cursor' read' c' connected' => ?_⟩
  obtain rfl := Option.some.inj (operated.symm.trans operated')
  obtain rfl := Option.some.inj (read.symm.trans read')
  obtain rfl := Option.some.inj (connected.symm.trans connected')
  exact in_frames

/-- Two frames of 16 bits are handed over while the hardware is two frames ahead. -/
def twoFrames : Traffic :=
  performAll
    [.operate (.connect sixteenBits) rfl, .operate (.start 0) rfl,
      .operate (.disturb (.setCursor 0 4)) rfl, .receive { data := [1, 2, 3, 4] }]
    ⟨.unconnected, []⟩

theorem run_unconnected (Allowed : Deed → Traffic → Prop) : Run Allowed ⟨.unconnected, []⟩ :=
  .create (show Renderer.create Renderer.unconnected.device Renderer.unconnected.config = .ok _
    from rfl)

/-- They are committed as they are. -/
theorem keepsFrames_of_two_frames :
    ∃ c, twoFrames.renderer.connection = some c ∧ c.InFrames
      ∧ twoFrames.KeepsFrames (.go 0 [[]]) c
      ∧ (Operation.feed ⟨[1, 2, 3, 4], none⟩ [[]]).commitment twoFrames.renderer
        = some (4, [1, 2, 3, 4]) := by
  have fits (deed : Deed) (s : Traffic) (idle : s.calls = []) : deed.Fits s := by
    intro format _ left before
    rw [lefts, idle] at before
    cases before
  have run : Run (fun deed s => deed.Whole s ∧ deed.Fits s) twoFrames := by
    refine Run.perform (Run.perform (Run.perform (Run.perform (run_unconnected _)
      _ ⟨whole_operate _ rfl _, fits _ _ rfl⟩) _ ⟨whole_operate _ rfl _, fits _ _ rfl⟩)
      _ ⟨whole_operate _ rfl _, fits _ _ rfl⟩) _ ⟨whole_receive rfl ?_, fits _ _ rfl⟩
    decide
  have whole : (Deed.go 0 [[]]).Whole twoFrames :=
    whole_go rfl (show _ = some ⟨0, 4⟩ from rfl) rfl ⟨by decide, by decide⟩
  obtain ⟨frames, keeps⟩ := run.keepsFrames rfl
  exact ⟨_, rfl, frames, keeps _ whole, by decide⟩

/-- A call that has one of its eight bytes left waits for room on a ring of ten. -/
def waitsWithOneByte : Traffic :=
  performAll
    [.operate (.connect eightBits) rfl, .operate (.start 0) rfl,
      .operate (.disturb (.setCursor 0 3)) rfl,
      .receive { data := [1, 2, 3, 4, 5, 6, 7, 8] }, .go 0 [[]], .go 0 [[]]]
    ⟨.unconnected, []⟩

/-- Meanwhile the stream is stopped, and started again on a connection of 16 bits. -/
def wakesOnSixteenBits : Traffic :=
  performAll
    [.operate .stop rfl, .operate .disconnect rfl, .operate (.connect sixteenBits) rfl,
      .operate (.start 0) rfl, .operate (.disturb (.setCursor 0 2)) rfl]
    waitsWithOneByte

/-- The call goes on there. The one byte that it writes is half a frame, and whatever follows is
written from the middle of a frame on. -/
theorem shifted_by_leftover :
    ∃ s c, Run Deed.Whole s ∧ s.renderer.connection = some c ∧ c.format.blockAlign = 2
      ∧ c.tracker.writePos = some 3 ∧ ¬c.InFrames
      ∧ c.tracker.ring.buffer.bytes = [0, 0, 8] ++ List.replicate 17 0 := by
  have waits : Run Deed.Whole waitsWithOneByte := by
    have handed := Run.perform (Run.perform (Run.perform (Run.perform
      (run_unconnected Deed.Whole) (.operate (.connect eightBits) rfl)
      (whole_operate _ rfl _)) (.operate (.start 0) rfl) (whole_operate _ rfl _))
      (.operate (.disturb (.setCursor 0 3)) rfl) (whole_operate _ rfl _))
      (.receive { data := [1, 2, 3, 4, 5, 6, 7, 8] }) (whole_receive rfl (by decide))
    have written := handed.perform (.go 0 [[]])
      (whole_go rfl (show _ = some ⟨0, 3⟩ from rfl) rfl ⟨by decide, by decide⟩)
    exact written.perform (.go 0 [[]])
      (whole_go rfl (show _ = some ⟨0, 3⟩ from rfl) rfl ⟨by decide, by decide⟩)
  have wakes : Run Deed.Whole wakesOnSixteenBits :=
    ((((waits.perform (.operate .stop rfl) (whole_operate _ rfl _)).perform
      (.operate .disconnect rfl) (whole_operate _ rfl _)).perform
      (.operate (.connect sixteenBits) rfl) (whole_operate _ rfl _)).perform
      (.operate (.start 0) rfl) (whole_operate _ rfl _)).perform
      (.operate (.disturb (.setCursor 0 2)) rfl) (whole_operate _ rfl _)
  have goes_on : Run Deed.Whole (wakesOnSixteenBits.perform (.go 0 [[]])).2 :=
    wakes.perform (.go 0 [[]])
      (whole_go rfl (show _ = some ⟨0, 2⟩ from rfl) rfl ⟨by decide, by decide⟩)
  refine ⟨_, _, goes_on, rfl, rfl, rfl, ?_, rfl⟩
  intro frames
  exact absurd (frames.writePos 3 rfl).2 (by decide)

end Traffic

end Playout
