import Playout.Proofs.Session.Passes
import Playout.Proofs.Session.Persistence

/-!
# The geometry of a connection

Every renderer that comes about, by whatever operations, with whatever failures and whatever others
do to its buffer, is well formed: the settings and the format of a connection are accepted ones, the
ring is as large as the buffer that holds it and was made for a format that differs from the present
one at most in its rates, and the cursors and the positions that are kept lie on the ring.

`Persistence` takes care of what happens between passes; here are connecting and the passes
themselves, which leave the settings, the format and the size of the ring as well
(`Renderer.SameShape`).
-/

namespace Playout

/-! ### Trackers -/

namespace PositionTracker

/-- The positions that are kept, and the cursors of the buffer, lie on the ring. -/
structure Seated (t : PositionTracker) : Prop where
  spans : t.ring.buffer.Spans t.size
  lastPlay_lt : t.lastPlay < t.size
  writePos_lt : ∀ write ∈ t.writePos, write < t.size

variable {t t' : PositionTracker}

/-- A write position that is left after a look was there before it. -/
theorem resync_writePos_eq (draining : Bool) (lastPlay : Nat) (writePos : Option Nat)
    (minimum size : Nat) :
    (resync draining lastPlay writePos minimum size).2.2 = none
      ∨ (resync draining lastPlay writePos minimum size).2.2 = writePos := by
  unfold resync
  split
  · exact .inl rfl
  dsimp only
  split
  · exact .inl rfl
  split
  · exact .inl rfl
  · exact .inr rfl

theorem resync_lt (draining : Bool) {lastPlay minimum size : Nat} {writePos : Option Nat}
    (minimum_lt : minimum < size) (write_lt : ∀ write ∈ writePos, write < size) :
    (resync draining lastPlay writePos minimum size).1 < size := by
  rcases resync_writePos draining lastPlay writePos minimum size with ⟨-, hardware⟩ | kept
  · rw [hardware]
    exact minimum_lt
  · rcases resync_writePos_eq draining lastPlay writePos minimum size with unset | same
    · cases unset.symm.trans kept
    · exact write_lt _ (same.symm.trans kept)

theorem seated_mk {ring : RingBuffer} {lastPlay n : Nat} {writePos : Option Nat}
    (size_eq : ring.size = n) (spans : ring.buffer.Spans n) (lastPlay_lt : lastPlay < n)
    (writePos_lt : ∀ write ∈ writePos, write < n) :
    Seated ⟨ring, lastPlay, writePos⟩ := by
  subst size_eq
  exact ⟨spans, lastPlay_lt, writePos_lt⟩

theorem Seated.pos (seated : t.Seated) : 0 < t.size := Nat.zero_lt_of_lt seated.lastPlay_lt

/-- Once the cursors are read, a look only depends on whether the ring can be silenced. -/
theorem refresh_of_answering (draining : Bool) (pos : 0 < t.size)
    (answering : t.ring.buffer.armed.cursor = false) :
    t.refresh draining
      = match t.ring.fillSilence t.lastPlay
          (distance t.lastPlay t.ring.buffer.position.play t.size) with
        | (.error e, ring) =>
          (.error (.transport e), { t with ring, lastPlay := t.ring.buffer.position.play })
        | (.ok _, ring) =>
          (.ok (t.found draining t.ring.buffer.position),
            { t.looked draining t.ring.buffer.position with ring }) := by
  have read : t.ring.cursor = (.ok t.ring.buffer.position, t.ring) := by
    simp [RingBuffer.cursor, SoundBuffer.cursor, answering]
  unfold PositionTracker.refresh
  rw [read]
  dsimp only
  rw [if_neg (Nat.ne_of_gt pos)]
  rfl

/-- A look that succeeds has read where the cursors are, and keeps the play cursor. -/
theorem Seated.refresh_inv (seated : t.Seated) {draining : Bool} {positions : Positions}
    (h : t.refresh draining = (.ok positions, t')) :
    positions = t.found draining t.ring.buffer.position
      ∧ t'.lastPlay = t.ring.buffer.position.play := by
  by_cases armed : t.ring.buffer.armed.cursor = true
  · rw [refresh_of_armed draining armed] at h
    cases h
  · rw [refresh_of_answering draining seated.pos (by simpa using armed)] at h
    split at h
    · cases h
    · cases h
      exact ⟨rfl, rfl⟩

/-- A look leaves a seated tracker, also if it fails. -/
theorem Seated.refresh (seated : t.Seated) (draining : Bool) :
    (t.refresh draining).2.Seated ∧ (t.refresh draining).2.size = t.size := by
  obtain ⟨spans, lastPlay_lt, writePos_lt⟩ := seated
  by_cases armed : t.ring.buffer.armed.cursor = true
  · rw [refresh_of_armed draining armed]
    exact ⟨seated_mk rfl ⟨spans.size_eq, spans.playAt_lt, spans.writeAt_lt⟩ lastPlay_lt
      writePos_lt, rfl⟩
  have filled_spans := t.ring.spans_fillSilence spans t.lastPlay
    (distance t.lastPlay t.ring.buffer.position.play t.size)
  have filled_size := t.ring.size_fillSilence t.lastPlay
    (distance t.lastPlay t.ring.buffer.position.play t.size)
  rw [refresh_of_answering draining (Nat.zero_lt_of_lt lastPlay_lt) (by simpa using armed)]
  split
  · next refused =>
    rw [refused] at filled_spans filled_size
    exact ⟨seated_mk filled_size filled_spans spans.position.1 writePos_lt, filled_size⟩
  · next filled =>
    rw [filled] at filled_spans filled_size
    refine ⟨seated_mk filled_size filled_spans spans.position.1 ?_, filled_size⟩
    intro write there
    rcases resync_writePos_eq draining t.lastPlay t.writePos t.ring.buffer.position.write t.size
      with unset | kept
    · cases unset.symm.trans there
    · exact writePos_lt write (kept.symm.trans there)

theorem Seated.size_of_refresh (seated : t.Seated) {draining : Bool}
    {answer : Except Failure Positions} (h : t.refresh draining = (answer, t')) :
    t'.size = t.size := by
  have kept := (seated.refresh draining).2
  rwa [h] at kept

/-- A plan goes by the cursors that its look has read. -/
theorem Seated.plan_inv (seated : t.Seated) {p : WritePlanner} {f : WaveFormat}
    {timing : Option Timing} {plan : WritePlan} {positions : Positions}
    (planned : p.plan t f timing = (.ok (plan, positions), t')) :
    positions = t.found false t.ring.buffer.position
      ∧ p.place f t.ring.buffer.position.play t.size positions timing = .ok plan := by
  obtain ⟨looked, -, placed⟩ := WritePlanner.plan_eq_ok.1 planned
  unfold PositionTracker.update at looked
  obtain ⟨found, lastPlay⟩ := seated.refresh_inv looked
  rw [lastPlay, seated.size_of_refresh looked] at placed
  exact ⟨found, placed⟩

/-- A commitment leaves a seated tracker, also if it fails. -/
theorem Seated.commit (seated : t.Seated) (offset : Nat) (data : List UInt8) :
    (t.commit offset data).2.Seated ∧ (t.commit offset data).2.size = t.size := by
  have pos := seated.pos
  obtain ⟨spans, lastPlay_lt, writePos_lt⟩ := seated
  have written_spans := t.ring.spans_write spans offset data
  have written_size := t.ring.size_write offset data
  unfold PositionTracker.commit
  split
  · next refused =>
    rw [refused] at written_spans written_size
    exact ⟨seated_mk written_size written_spans lastPlay_lt writePos_lt, written_size⟩
  next region ring written =>
  rw [written] at written_spans written_size
  split
  · exact ⟨seated_mk written_size written_spans lastPlay_lt writePos_lt, written_size⟩
  · refine ⟨seated_mk written_size written_spans lastPlay_lt ?_, written_size⟩
    rintro _ ⟨⟩
    unfold Segments.stop
    split <;> exact Nat.mod_lt _ pos

end PositionTracker

/-! ### Connections and renderers -/

/-- The connection of a renderer with these settings: its format is an accepted one, everything
lies on its ring, and the ring was made for a format that differs at most in the rates. -/
structure Connection.WellFormed (config : RendererConfig) (c : Connection) : Prop where
  valid : c.format.validate = .ok ()
  seated : c.tracker.Seated
  size_lt : c.tracker.size < 0x8000000000000000
  made : ∃ f : WaveFormat, f.validate = .ok () ∧ f.renegotiableTo c.format = true
    ∧ c.tracker.size = config.bufferBytes f

namespace Renderer

structure WellFormed (r : Renderer) : Prop where
  config : r.config.validate = .ok ()
  connection : ∀ c ∈ r.connection, c.WellFormed r.config
  memory : ∀ c ∈ r.connection, c.tracker.size < r.device.memory

variable {r r' : Renderer} {c : Connection}

theorem WellFormed.persists (formed : r.WellFormed) (lasts : r.Persists r') : r'.WellFormed := by
  have memory : ∀ c' ∈ r'.connection, c'.tracker.size < r'.device.memory := by
    intro c' connected'
    obtain ⟨c, connected, lasts'⟩ := lasts.connection c' connected'
    rw [lasts.memory_eq, lasts'.size_eq]
    exact formed.memory c connected
  refine ⟨lasts.config_eq.symm ▸ formed.config, fun c' connected' => ?_, memory⟩
  obtain ⟨c, connected, size_eq, lastPlay_eq, writePos, renegotiable, valid, spans⟩ :=
    lasts.connection c' connected'
  obtain ⟨valid', seated, size_lt, f, made_valid, made_renegotiable, made⟩ :=
    formed.connection c connected
  refine ⟨valid valid', ⟨?_, ?_, ?_⟩, size_eq.symm ▸ size_lt, f, made_valid,
    WaveFormat.renegotiableTo_trans made_renegotiable renegotiable, ?_⟩
  · rw [size_eq]
    exact spans seated.spans
  · rw [size_eq, lastPlay_eq]
    exact seated.lastPlay_lt
  · intro write there
    rw [size_eq]
    rcases writePos with unset | kept
    · cases unset.symm.trans there
    · exact seated.writePos_lt write (kept.symm.trans there)
  · rw [size_eq, lasts.config_eq]
    exact made

/-- A ring that plays for longer than a signed word counts takes some 859 GiB of memory. -/
theorem WellFormed.memory_of_long_lap (formed : r.WellFormed) (connected : r.connection = some c)
    (long : 0x8000000000000000 ≤ c.format.exactTicks c.tracker.size) :
    0x8000000000000000 < r.device.memory * ticksPerSecond := by
  have rate := WaveFormat.byteRate_pos_of_validate (formed.connection c connected).valid
  have lap : c.format.exactTicks c.tracker.size ≤ c.tracker.size * ticksPerSecond :=
    (WaveFormat.exactTicks_le_iff rate _ _).2 (Nat.le_mul_of_pos_right _ rate)
  have room := Nat.mul_lt_mul_of_pos_right (formed.memory c connected)
    (show 0 < ticksPerSecond by decide)
  omega

/-- What decides how long the ring of a connection plays. -/
def dimensions (r : Renderer) : RendererConfig × Option (WaveFormat × Nat) :=
  (r.config, r.connection.map fun c => (c.format, c.tracker.size))

/-- A well-formed renderer with the dimensions of `r`: what every part of a pass leaves. -/
structure SameShape (r r' : Renderer) : Prop where
  wellFormed : r'.WellFormed
  dimensions_eq : r'.dimensions = r.dimensions

theorem WellFormed.sameShape_of_eq (formed : r.WellFormed) (config_eq : r'.config = r.config)
    (memory_eq : r'.device.memory = r.device.memory)
    (connection_eq : r'.connection = r.connection) :
    r.SameShape r' := by
  refine ⟨formed.persists (persists_of_eq config_eq memory_eq connection_eq), ?_⟩
  rw [dimensions, config_eq, connection_eq, dimensions]

theorem WellFormed.sameShape_refl (formed : r.WellFormed) : r.SameShape r :=
  formed.sameShape_of_eq rfl rfl rfl

theorem SameShape.trans {r'' : Renderer} (first : r.SameShape r') (later : r'.SameShape r'') :
    r.SameShape r'' :=
  ⟨later.wellFormed, later.dimensions_eq.trans first.dimensions_eq⟩

theorem WellFormed.sameShape_setTracker (formed : r.WellFormed) (connected : r.connection = some c)
    {t : PositionTracker} (seated : t.Seated ∧ t.size = c.tracker.size) :
    r.SameShape (r.setTracker t) := by
  obtain ⟨seated, size_eq⟩ := seated
  obtain ⟨valid, -, size_lt, made⟩ := formed.connection c connected
  refine ⟨⟨formed.config, fun c' connected' => ?_, fun c' connected' => ?_⟩, ?_⟩
  · rw [Renderer.setTracker, connected] at connected'
    obtain rfl := Option.some.inj connected'
    refine ⟨valid, seated, ?_, ?_⟩ <;> (dsimp only; rw [size_eq])
    · exact size_lt
    · exact made
  · rw [Renderer.setTracker, connected] at connected'
    obtain rfl := Option.some.inj connected'
    exact size_eq ▸ formed.memory c connected
  · unfold dimensions Renderer.setTracker
    rw [connected]
    dsimp only [Option.map_some]
    rw [size_eq]

/-! ### Connecting -/

theorem spans_fresh (d : VirtualDevice) {size : Nat} (format : WaveFormat) (pos : 0 < size) :
    (d.fresh size format).Spans size :=
  ⟨List.length_replicate, pos, pos⟩

theorem WellFormed.connect (formed : r.WellFormed) (format : WaveFormat) :
    (r.connect format).2.WellFormed := by
  rcases h : r.connect format with ⟨answer, r'⟩
  rcases connect_inv h with ⟨rfl, -⟩ | ⟨⟨valid, -, -⟩, buffer, device, created, rfl⟩
  · exact formed
  obtain ⟨⟨pos, memory, size_lt⟩, rfl, rfl⟩ := VirtualDevice.create_eq_ok created
  have adjusted : (r.adjusted (r.device.fresh _ format)).Spans (r.config.bufferBytes format) :=
    ((((spans_fresh r.device format pos).armLevel _).setVolume _).armLevel _).setPan _
  refine ⟨formed.config, ?_, ?_⟩
  · rintro _ ⟨⟩
    exact ⟨valid, ⟨adjusted, pos, nofun⟩, size_lt, format, valid,
      WaveFormat.renegotiableTo_refl format, rfl⟩
  · rintro _ ⟨⟩
    exact memory

/-! ### Passes -/

theorem connection_atReading (connected : r.connection = some c) (acts : List Disturbance) :
    ∃ b, (r.atReading acts).connection = some (c.withBuffer b) := by
  have disturbed (acts : List Disturbance) :
      ∀ (r : Renderer) (c : Connection), r.connection = some c →
        ∃ b, (r.disturbAll acts).connection = some (c.withBuffer b) := by
    induction acts with
    | nil => exact fun r c connected => ⟨c.tracker.ring.buffer, connected⟩
    | cons act acts ih =>
      intro r c connected
      obtain ⟨b, later⟩ := ih _ _ (connection_disturb connected act)
      exact ⟨b, later⟩
  unfold atReading
  split
  · exact ⟨c.tracker.ring.buffer, connected⟩
  · exact disturbed acts r c connected

theorem persists_atReading (r : Renderer) (acts : List Disturbance) :
    r.Persists (r.atReading acts) := by
  unfold atReading
  split
  · exact r.persists_refl
  · exact r.persists_disturbAll acts

theorem WellFormed.sameShape_atReading (formed : r.WellFormed) (acts : List Disturbance) :
    r.SameShape (r.atReading acts) := by
  have lasts := r.persists_atReading acts
  refine ⟨formed.persists lasts, ?_⟩
  unfold dimensions
  rw [lasts.config_eq]
  cases connected : r.connection with
  | none =>
    cases connected' : (r.atReading acts).connection with
    | none => rfl
    | some c =>
      obtain ⟨c', connected'', -⟩ := lasts.connection c connected'
      cases connected.symm.trans connected''
  | some c =>
    obtain ⟨b, connected'⟩ := connection_atReading connected acts
    rw [connected']
    rfl

theorem WellFormed.sameShape_look (formed : r.WellFormed) {schedule rest : Schedule}
    {work : Connection → Except Failure α × PositionTracker} {answer : Except RenderError α}
    (works : ∀ c : Connection, c.tracker.Seated →
      (work c).2.Seated ∧ (work c).2.size = c.tracker.size)
    (looked : r.look schedule work = (answer, r', rest)) :
    r.SameShape r' := by
  cases Looked.of_look looked with
  | unscheduled => exact formed.sameShape_refl
  | disconnected acts => exact formed.sameShape_atReading acts
  | failed acts c connected | found acts c connected =>
    have disturbed := formed.sameShape_atReading acts
    have seated := works c (disturbed.wellFormed.connection c connected).seated
    exact disturbed.trans (disturbed.wellFormed.sameShape_setTracker connected seated)

theorem WellFormed.sameShape_planChunk (formed : r.WellFormed) {writeAt : Option Ticks}
    {schedule rest : Schedule} {chunk : Except RenderError (Option Chunk)}
    (planned : r.planChunk writeAt schedule = (chunk, r', rest)) :
    r.SameShape r' := by
  have works (timing : Option Timing) (c : Connection) (seated : c.tracker.Seated) :
      (r.planner.plan c.tracker c.format timing).2.Seated
        ∧ (r.planner.plan c.tracker c.format timing).2.size = c.tracker.size := by
    rw [refresh_of_plan]
    exact seated.refresh false
  cases Planned.of_planChunk planned with
  | overflow | disconnected => exact formed.sameShape_refl
  | failed timed looked => exact formed.sameShape_look (works _) looked
  | found timed looked =>
    have found := formed.sameShape_look (works _) looked
    exact found.trans (found.wellFormed.sameShape_of_eq rfl rfl rfl)

theorem WellFormed.sameShape_writeChunk (formed : r.WellFormed) (data : List UInt8)
    (chunk : Chunk) :
    r.SameShape (r.writeChunk data chunk).2 := by
  rcases written : r.writeChunk data chunk with ⟨outcome, r'⟩
  cases Written.of_writeChunk written with
  | stale | disconnected => exact formed.sameShape_of_eq rfl rfl rfl
  | refused c fresh connected answered | granted c fresh connected answered =>
    have committed := (formed.connection c connected).seated.commit chunk.target
      ((data.drop chunk.skip).take chunk.free)
    rw [answered] at committed
    have put := formed.sameShape_setTracker connected committed
    exact put.trans (put.wellFormed.sameShape_of_eq rfl rfl rfl)

theorem WellFormed.sameShape_feedPass (formed : r.WellFormed) (left : Feed)
    (schedule : Schedule) :
    r.SameShape (r.feedPass left schedule).2.1 := by
  by_cases idle : left.data.isEmpty ∨ r.state ≠ .running
  · obtain ⟨stats, counted⟩ := feedPass_of_idle idle schedule
    rw [counted]
    exact formed.sameShape_of_eq rfl rfl rfl
  rw [feedPass_of_not_idle idle]
  rcases planned : r.planChunk left.writeAt schedule with ⟨_ | _ | chunk, r', rest⟩
  all_goals have found := formed.sameShape_planChunk planned
  · exact found
  · exact found.trans (found.wellFormed.sameShape_of_eq rfl rfl rfl)
  · exact found.trans (found.wellFormed.sameShape_writeChunk _ _)

theorem WellFormed.sameShape_drainPass (formed : r.WellFormed) (schedule : Schedule) :
    r.SameShape (r.drainPass schedule).2.1 := by
  have works (c : Connection) (seated : c.tracker.Seated) := seated.refresh true
  rcases passed : r.drainPass schedule with ⟨outcome, r', rest⟩
  cases Drained.of_drainPass passed with
  | interrupted => exact formed.sameShape_refl
  | failed _ looked => exact formed.sameShape_look works looked
  | found _ looked =>
    have found := formed.sameShape_look works looked
    exact found.trans (found.wellFormed.sameShape_of_eq rfl rfl rfl)

theorem WellFormed.apply (formed : r.WellFormed) (op : Operation) : (op.apply r).WellFormed := by
  by_cases between : op.isBetweenPasses = true
  · exact formed.persists (op.persists_apply between r)
  cases op with
  | connect format => exact formed.connect format
  | feed left schedule => exact (formed.sameShape_feedPass left schedule).wellFormed
  | drain schedule => exact (formed.sameShape_drainPass schedule).wellFormed
  | _ => exact absurd rfl between

/-! ### Every renderer -/

/-- The renderers that come about, whatever the operations and whatever fails in them. -/
inductive Reachable : Renderer → Prop
  | create {device : VirtualDevice} {config : RendererConfig} {r : Renderer}
      (created : Renderer.create device config = .ok r) :
      Reachable r
  | operate {r : Renderer} (reached : Reachable r) (op : Operation) : Reachable (op.apply r)

theorem create_inv {device : VirtualDevice} {config : RendererConfig}
    (created : Renderer.create device config = .ok r) :
    config.validate = .ok () ∧ r = { config, device } := by
  unfold Renderer.create at created
  split at created
  · next valid =>
    cases created
    exact ⟨valid, rfl⟩
  · cases created

theorem wellFormed_of_create {device : VirtualDevice} {config : RendererConfig}
    (created : Renderer.create device config = .ok r) :
    r.WellFormed := by
  obtain ⟨valid, rfl⟩ := create_inv created
  exact ⟨valid, fun c connected => absurd connected (Option.not_mem_none c),
    fun c connected => absurd connected (Option.not_mem_none c)⟩

theorem Reachable.wellFormed (reached : r.Reachable) : r.WellFormed := by
  induction reached with
  | create created => exact wellFormed_of_create created
  | operate _ op formed => exact formed.apply op

theorem Reachable.applyAll (reached : r.Reachable) (ops : List Operation) :
    (Operation.applyAll ops r).Reachable := by
  induction ops generalizing r with
  | nil => exact reached
  | cons op ops ih => exact ih (reached.operate op)

theorem reachable_tenBytes : tenBytes.Reachable := by
  have created : create unconnected.device unconnected.config = .ok unconnected := rfl
  exact (Reachable.create created).applyAll _

end Renderer

end Playout
