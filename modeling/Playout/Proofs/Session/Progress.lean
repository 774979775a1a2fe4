import Playout.Proofs.Planner.Placement
import Playout.Proofs.Session.Geometry

/-!
# Calls that get on

A pass of a call that feeds a sample ends the call, gives the renderer free to wait, or is followed
at once by another pass, with less left to feed. So a call holds the renderer for at most as many
looks at the hardware as there are bytes to feed (`length_le_of_feedTurn`).

There is one exception. A ring that plays as a whole for less than the limit on what may be queued
never counts as full (`Connection.NeverFull`), and once the queued bytes reach round to the play
cursor a pass finds a place there without any room: it writes nothing, and the next pass finds the
renderer as it was. The settings rule that out only for the rate at which the ring was made, up to
the frame that was cut off there (`neverFull_cases`).
-/

namespace Playout

/-! ### The exception -/

/-- The whole ring plays for less than the limit, so that no number of queued bytes reaches it. -/
def Connection.NeverFull (config : RendererConfig) (c : Connection) : Prop :=
  c.format.ticksOfBytes c.tracker.size < config.maxFill.toTicks

instance (config : RendererConfig) (c : Connection) : Decidable (c.NeverFull config) :=
  inferInstanceAs (Decidable (_ < _))

namespace WaveFormat

/-- Formats with the same frames play faster only at a higher rate. -/
theorem exactTicks_le_of_sampleRate_le {f g : WaveFormat} (valid : f.validate = .ok ())
    (valid' : g.validate = .ok ()) (renegotiable : f.renegotiableTo g = true)
    (slower : g.sampleRate ≤ f.sampleRate) (n : Nat) :
    f.exactTicks n ≤ g.exactTicks n := by
  have rate := byteRate_pos_of_validate valid
  have rate' := byteRate_pos_of_validate valid'
  obtain ⟨-, -, -, -, -, bytes, -⟩ := of_validate valid
  obtain ⟨-, -, -, -, -, bytes', -⟩ := of_validate valid'
  have frame : f.blockAlign = g.blockAlign := by
    simp only [renegotiableTo, Bool.and_eq_true, beq_iff_eq] at renegotiable
    exact renegotiable.1.1.2
  have rates : g.byteRate ≤ f.byteRate := by
    rw [bytes, bytes', frame]
    exact Nat.mul_le_mul_right _ slower
  rw [exactTicks_le_iff rate]
  exact Nat.le_trans (le_exactTicks_mul rate' n) (Nat.mul_le_mul_left _ rates)

end WaveFormat

/-- A ring never counts as full only if the rate was raised since it was made, or the limit reaches
into the incomplete frame that was cut off then, or the bytes of the ring did not fit their word, or
the time of a lap does not fit its own. -/
theorem Connection.WellFormed.neverFull_cases {config : RendererConfig} {c : Connection}
    (formed : c.WellFormed config) (never : c.NeverFull config) :
    ∃ f : WaveFormat, (f.validate = .ok () ∧ f.renegotiableTo c.format = true
        ∧ c.tracker.size = config.bufferBytes f)
      ∧ (f.sampleRate < c.format.sampleRate
        ∨ config.bufferDuration.toTicks < config.maxFill.toTicks + f.exactTicks f.blockAlign
        ∨ 0x10000000000000000 ≤ f.exactBytes config.bufferDuration.toTicks.natAbs
        ∨ 0x8000000000000000 ≤ c.format.exactTicks c.tracker.size) := by
  obtain ⟨valid', -, -, f, valid, renegotiable, made⟩ := formed
  refine ⟨f, ⟨valid, renegotiable, made⟩, ?_⟩
  by_cases raised : f.sampleRate < c.format.sampleRate
  · exact .inl raised
  by_cases overflow : 0x10000000000000000 ≤ f.exactBytes config.bufferDuration.toTicks.natAbs
  · exact .inr (.inr (.inl overflow))
  by_cases long : 0x8000000000000000 ≤ c.format.exactTicks c.tracker.size
  · exact .inr (.inr (.inr long))
  have short := never
  have slower := WaveFormat.exactTicks_le_of_sampleRate_le valid valid' renegotiable
    (Nat.not_lt.1 raised) c.tracker.size
  have whole := WaveFormat.exactTicks_bytesOfTicks valid config.bufferDuration.toTicks_nonneg
    (Nat.not_le.1 overflow)
  rw [← RendererConfig.bufferBytes, ← made] at whole
  rw [Connection.NeverFull, WaveFormat.ticksOfBytes_of_lt (Nat.not_le.1 long)] at short
  unfold Ticks at *
  omega

/-- Only a ring that never counts as full has a place without room. -/
theorem Connection.neverFull_of_no_room {config : RendererConfig} {c : Connection}
    (seated : c.tracker.Seated) {timing : Option Timing} {target skip gap : Nat}
    {positions : Positions} {t : PositionTracker}
    (planned : (WritePlanner.ofConfig config).plan c.tracker c.format timing
      = (.ok (.ready target 0 skip gap, positions), t)) :
    c.NeverFull config := by
  obtain ⟨-, place⟩ := seated.plan_inv planned
  obtain ⟨-, below, -⟩ := WritePlanner.placement_of_place place
  exact below

/-! ### Passes -/

namespace PassEnd

/-- The pass ends the call, waits, or leaves less to feed than `data`. -/
def Advances (outcome : PassEnd) (data : List UInt8) : Prop :=
  match outcome with
  | .returned _ | .wait _ => True
  | .proceed left => left.data.length < data.length

/-- Another pass follows at once, with all of `data` left to feed. -/
def Stalls (outcome : PassEnd) (data : List UInt8) : Prop :=
  match outcome with
  | .returned _ | .wait _ => False
  | .proceed left => left.data = data

end PassEnd

namespace Renderer

variable {r r' : Renderer} {c : Connection}

/-- A write gets on unless there is no room for it. -/
theorem advances_or_stalls_writeChunk {t : PositionTracker} (tracked : r.tracker = some t)
    (pos : 0 < t.size) {data : List UInt8} (more : data ≠ []) (chunk : Chunk) :
    (r.writeChunk data chunk).1.Advances data
      ∨ chunk.free = 0 ∧ (r.writeChunk data chunk).1.Stalls data := by
  have some_data := List.length_pos_iff.2 more
  rcases written : r.writeChunk data chunk with ⟨outcome, r'⟩
  cases Written.of_writeChunk written with
  | stale | disconnected | refused => exact .inl trivial
  | granted c fresh connected granted =>
    obtain rfl := Option.some.inj (tracked.symm.trans (tracker_of_connection connected))
    have covered := PositionTracker.length_of_commit granted
    rw [List.length_take, List.length_drop] at covered
    unfold PassEnd.Advances PassEnd.Stalls
    dsimp only
    by_cases stuck : chunk.free = 0 ∧ chunk.skip = 0
    · obtain ⟨none_free, none_stale⟩ := stuck
      rw [none_free, Nat.zero_min, Nat.zero_min] at covered
      rw [none_stale, covered]
      exact .inr ⟨none_free, rfl⟩
    · left
      rw [List.length_drop, List.length_drop]
      omega

/-! ### Whole passes, and turns of them -/

/-- The stream has a ring that never counts as full. -/
def NeverFull (r : Renderer) : Prop := ∃ c ∈ r.connection, c.NeverFull r.config

instance (r : Renderer) : Decidable r.NeverFull :=
  inferInstanceAs (Decidable (∃ c ∈ r.connection, c.NeverFull r.config))

theorem neverFull_of_dimensions (same : r'.dimensions = r.dimensions) (never : r'.NeverFull) :
    r.NeverFull := by
  obtain ⟨c', connected', short⟩ := never
  unfold dimensions at same
  obtain ⟨config_eq, connections⟩ := Prod.mk.inj same
  rw [connected', Option.map_some, eq_comm, Option.map_eq_some_iff] at connections
  obtain ⟨c, connected, dims⟩ := connections
  obtain ⟨format_eq, size_eq⟩ := Prod.mk.inj dims
  refine ⟨c, connected, ?_⟩
  rw [Connection.NeverFull, format_eq, size_eq, ← config_eq]
  exact short

/-- A plan for a sample leaves no room only on a ring that never counts as full. -/
theorem neverFull_of_planChunk (formed : r.WellFormed) {writeAt : Option Ticks}
    {schedule rest : Schedule} {chunk : Chunk}
    (planned : r.planChunk writeAt schedule = (.ok (some chunk), r', rest))
    (full : chunk.free = 0) :
    r.NeverFull := by
  obtain ⟨acts, c, timing, plan, positions, t, -, rfl, connected, worked, -, place⟩ :=
    planChunk_inv planned
  have disturbed := formed.sameShape_atReading acts
  have config_eq := (r.persists_atReading acts).config_eq
  cases plan with
  | blocked => cases place
  | ready target free skip gap =>
    cases place
    obtain rfl : free = 0 := full
    refine neverFull_of_dimensions disturbed.dimensions_eq ⟨c, connected, ?_⟩
    rw [config_eq]
    have seated := (disturbed.wellFormed.connection c connected).seated
    exact Connection.neverFull_of_no_room seated worked

/-- A pass with something to feed gets on, unless the ring never counts as full. -/
theorem WellFormed.advances_or_stalls (formed : r.WellFormed) {left : Feed}
    (more : left.data ≠ []) (schedule : Schedule) :
    (r.feedPass left schedule).1.Advances left.data
      ∨ r.NeverFull ∧ (r.feedPass left schedule).1.Stalls left.data := by
  by_cases idle : left.data.isEmpty ∨ r.state ≠ .running
  · rcases feedPass_idle_cases idle schedule with ⟨-, ends⟩ | ends <;> rw [ends] <;>
      exact .inl trivial
  rw [feedPass_of_not_idle idle]
  rcases planned : r.planChunk left.writeAt schedule with ⟨_ | _ | chunk, r', rest⟩
  · exact .inl trivial
  · exact .inl trivial
  obtain ⟨-, c, -, -, -, t, -, -, -, -, connected, -⟩ := planChunk_inv planned
  have pos := ((formed.sameShape_planChunk planned).wellFormed.connection _ connected).seated.pos
  rcases advances_or_stalls_writeChunk (tracker_of_connection connected) pos more chunk with
    advances | ⟨full, stalls⟩
  · exact .inl advances
  · exact .inr ⟨neverFull_of_planChunk formed planned full, stalls⟩

/-- A pass makes one look at the most, and none if there is nothing to feed. -/
theorem length_le_of_feedPass {left : Feed} {schedule rest : Schedule} {outcome : PassEnd}
    (passed : r.feedPass left schedule = (outcome, r', rest)) :
    schedule.length ≤ rest.length + min 1 left.data.length := by
  by_cases idle : left.data.isEmpty ∨ r.state ≠ .running
  · rcases feedPass_idle_cases idle schedule with ⟨-, ends⟩ | ends <;>
      (cases ends.symm.trans passed; omega)
  have some_data : 0 < left.data.length := by
    refine List.length_pos_iff.2 fun empty => idle (.inl ?_)
    rw [empty, List.isEmpty_nil]
  have looks {chunk : Except RenderError (Option Chunk)} {r₁ : Renderer} {later : Schedule}
      (planned : r.planChunk left.writeAt schedule = (chunk, r₁, later)) :
      schedule.length ≤ later.length + 1 := by
    cases Planned.of_planChunk planned with
    | overflow | disconnected => omega
    | failed _ looked | found _ looked =>
      rw [show later = schedule.tail from
        (congrArg (·.2.2) looked).symm.trans (r.look_schedule _ _), List.length_tail]
      omega
  rw [feedPass_of_not_idle idle] at passed
  rcases planned : r.planChunk left.writeAt schedule with ⟨_ | _ | chunk, r₁, later⟩ <;>
    (rw [planned] at passed; cases passed; have looks := looks planned; omega)

/-- A call holds the renderer for at most as many looks as there are bytes to feed. -/
theorem WellFormed.length_le_of_feedTurn (formed : r.WellFormed) (roomy : ¬r.NeverFull)
    (left : Feed) (schedule : Schedule) :
    schedule.length ≤ (r.feedTurn left schedule).2.2.length + left.data.length := by
  -- The recursion follows the passes; each but the last leaves less to feed.
  fun_induction feedTurn r left schedule with
  | case1 r left schedule r' rest passed
  | case2 r left schedule e r' rest passed
  | case3 r left schedule left' r' rest passed =>
    have looks := length_le_of_feedPass passed
    dsimp only
    omega
  | case4 r left schedule left' r' rest passed _ ih =>
    have looks := length_le_of_feedPass passed
    have more : left.data ≠ [] := by
      intro empty
      unfold Renderer.feedPass at passed
      simp [empty] at passed
    have shape := formed.sameShape_feedPass left schedule
    have advances := (formed.advances_or_stalls more schedule).resolve_right fun stalls =>
      roomy stalls.1
    rw [passed] at shape advances
    have later := ih shape.wellFormed fun never =>
      roomy (neverFull_of_dimensions shape.dimensions_eq never)
    have less : left'.data.length < left.data.length := advances
    omega

/-- Whatever happened to a renderer: a pass with something to feed ends the call, gives the renderer
free, or leaves less to feed; every place has room; and a call holds the renderer for at most as
many looks as there are bytes to feed. The exception is a ring that never counts as full, which
takes a raised rate, or a limit within the frame that was cut off, or a buffer whose bytes did not
fit their word, or memory for a ring that plays for longer than a signed word counts. -/
theorem Reachable.getsOn (reached : r.Reachable) :
    (∀ (left : Feed) (schedule : Schedule), left.data ≠ [] →
        (r.feedPass left schedule).1.Advances left.data
          ∨ r.NeverFull ∧ (r.feedPass left schedule).1.Stalls left.data)
      ∧ (∀ (c : Connection) (timing : Option Timing) (target free skip gap : Nat)
          (positions : Positions) (t : PositionTracker), r.connection = some c →
        r.planner.plan c.tracker c.format timing
            = (.ok (.ready target free skip gap, positions), t) →
        1 ≤ free ∨ r.NeverFull)
      ∧ (¬r.NeverFull → ∀ (left : Feed) (schedule : Schedule),
        schedule.length ≤ (r.feedTurn left schedule).2.2.length + left.data.length)
      ∧ (r.NeverFull → ∃ (c : Connection) (f : WaveFormat), r.connection = some c
        ∧ (f.validate = .ok () ∧ f.renegotiableTo c.format = true
          ∧ c.tracker.size = r.config.bufferBytes f)
        ∧ (f.sampleRate < c.format.sampleRate
          ∨ r.config.bufferDuration.toTicks
            < r.config.maxFill.toTicks + f.exactTicks f.blockAlign
          ∨ 0x10000000000000000 ≤ f.exactBytes r.config.bufferDuration.toTicks.natAbs
          ∨ 0x8000000000000000 ≤ c.format.exactTicks c.tracker.size
            ∧ 0x8000000000000000 < r.device.memory * ticksPerSecond)) := by
  have formed := reached.wellFormed
  refine ⟨fun left schedule more => formed.advances_or_stalls more schedule, ?_,
    formed.length_le_of_feedTurn, ?_⟩
  · intro c timing target free skip gap positions t connected planned
    rcases Nat.eq_zero_or_pos free with rfl | room
    · exact .inr ⟨c, connected,
        Connection.neverFull_of_no_room (formed.connection c connected).seated planned⟩
    · exact .inl room
  · rintro ⟨c, connected, short⟩
    obtain ⟨f, made, cause⟩ := (formed.connection c connected).neverFull_cases short
    exact ⟨c, f, connected, made, cause.imp_right (.imp_right (.imp_right fun long =>
      ⟨long, formed.memory_of_long_lap connected long⟩))⟩

/-- A ring of ten bytes that counts as full from five bytes on takes a byte. -/
theorem getsOn_of_tenBytes :
    tenBytes.Reachable ∧ (tenBytes.feedPass ⟨[1], none⟩ [[.setCursor 0 3]]).1.Advances [1] := by
  have roomy : ¬tenBytes.NeverFull := by decide
  obtain ⟨passes, -⟩ := reachable_tenBytes.getsOn
  refine ⟨reachable_tenBytes, ?_⟩
  exact (passes ⟨[1], none⟩ [[.setCursor 0 3]] nofun).resolve_right fun stalls => roomy stalls.1

/-- The stream of ten bytes once it is queued up round to the play cursor and its rate is raised
fourfold. -/
def fasterTenBytes : Renderer :=
  Operation.applyAll
    [.disturb (.setCursor 0 3), .feed ⟨[1, 2, 3, 4, 5, 6, 7], none⟩ [[]],
      .screen { data := [8], format := some (.pcm 4000 1 8) }]
    tenBytes

/-- A full ring whose rate was raised: a byte is planned a place without room, again and again, for
as long as the hardware answers. The call neither waits nor returns meanwhile, and the renderer
stays as it is. -/
theorem stalls_of_raised_rate :
    fasterTenBytes.Reachable ∧ fasterTenBytes.state = .running
      ∧ fasterTenBytes.format = some (.pcm 4000 1 8)
      ∧ (∀ rest : Schedule, fasterTenBytes.feedPass ⟨[8], none⟩ ([] :: rest)
        = (.proceed ⟨[8], none⟩, fasterTenBytes, rest))
      ∧ ∀ looks : Nat, fasterTenBytes.feedTurn ⟨[8], none⟩ (List.replicate looks [])
        = (.returned (.error (.hardware .cursorFailed)), fasterTenBytes, []) := by
  have same (rest : Schedule) : fasterTenBytes.feedPass ⟨[8], none⟩ ([] :: rest)
      = (.proceed ⟨[8], none⟩, fasterTenBytes, rest) := rfl
  refine ⟨reachable_tenBytes.applyAll _, rfl, rfl, same, fun looks => ?_⟩
  induction looks with
  | zero => exact feedTurn_of_failed rfl
  | succ looks again => exact (feedTurn_of_proceed (same _)).trans again

end Renderer

end Playout
