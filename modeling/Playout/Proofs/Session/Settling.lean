import Playout.Proofs.Session.Geometry
import Playout.Proofs.Session.Interruption
import Playout.Proofs.Session.Standing

/-!
# When a paused stream has settled

A stream that is paused from the stopped state waits for its first sample, and until that comes the
change of state has not settled. The renderer keeps one flag for it. What the flag says is about the
past: the operations that have led here paused a stopped stream that had a buffer, and the stream
has stayed paused since without a sample accepted, its end announced or a start attempted
(`Operation.Pending`, `Renderer.awaitState_applyAll`).

The flag rests on what holds between any two operations, the `Orderly` renderer: only a running
stream remembers where its next byte goes, a stopped one has no time, and only a paused one is
unsettled.
-/

namespace Playout

open Operation (applyAll applyAll_cons)

/-! ### What an operation makes of the stage -/

namespace Renderer

variable {r r' : Renderer}

/-- The state of the stream, whether it has settled, and the time of its last sample. -/
def stage (r : Renderer) : StreamState × Bool × Option Ticks := (r.state, r.settled, r.mediaTime)

theorem stage_of_standing (same : r'.standing = r.standing) : r'.stage = r.stage := by
  unfold stage
  rw [show r'.state = r.state from congrArg Standing.state same,
    show r'.settled = r.settled from congrArg Standing.settled same,
    show r'.mediaTime = r.mediaTime from congrArg Standing.mediaTime same]

theorem Unmoved.stage_eq (unmoved : r.Unmoved r') : r'.stage = r.stage := by
  rw [unmoved, stage, stage]

theorem stage_endFlush (r : Renderer) :
    r.endFlush.2.stage = (r.state, r.settled, none) := by
  have same := r.standing_endFlush
  unfold stage
  rw [show r.endFlush.2.state = r.state from congrArg Standing.state same,
    show r.endFlush.2.settled = r.settled from congrArg Standing.settled same,
    show r.endFlush.2.mediaTime = none from congrArg Standing.mediaTime same]

/-- Pausing a stopped stream that has a buffer leaves it unsettled. -/
theorem stage_pause (r : Renderer) :
    r.pause.2.stage
      = (.paused, if r.state = .stopped ∧ r.connected = true then false else r.settled,
        r.mediaTime) := by
  unfold pause
  split
  · next paused => simp [stage, paused]
  · next stopped => simp [stage, beginStream, stopped]
  · next running =>
    obtain ⟨-, rest⟩ := Prod.mk.inj r.unmoved_stopHardware.stage_eq
    rw [if_neg (by simp [running])]
    exact congrArg (Prod.mk StreamState.paused) rest

theorem stage_stop (r : Renderer) :
    r.stop.stage
      = if r.state = .stopped then r.stage else (StreamState.stopped, true, none) := by
  unfold stop
  dsimp only
  by_cases stopped : r.state = .stopped
  · rw [if_pos stopped, if_pos stopped, if_neg (stopped ▸ nofun), stage, stage, stopped]
  · rw [if_neg stopped, if_neg stopped]
    rfl

/-- A start of a stream that runs already does nothing; any other one settles the stream, and takes
it to the running state if the hardware plays. -/
theorem stage_start (r : Renderer) (origin : Ticks) :
    r.state = .running ∧ (r.start origin).2 = r
      ∨ ∃ state, (state = .running ∨ state = r.state)
        ∧ (r.start origin).2.stage = (state, true, r.mediaTime) := by
  have prepared : (r.prepared origin).stage = (r.state, true, r.mediaTime) := by
    rw [prepared_eq]
    rfl
  rcases started : r.start origin with ⟨answer, r'⟩
  cases Started.of_start started with
  | running running => exact .inl ⟨running, rfl⟩
  | refused _ asked =>
    exact .inr ⟨_, .inr rfl, (unmoved_onTransport asked).stage_eq.trans prepared⟩
  | granted _ asked =>
    obtain ⟨-, rest⟩ := Prod.mk.inj ((unmoved_onTransport asked).stage_eq.trans prepared)
    refine .inr ⟨_, .inl rfl, ?_⟩
    unfold conclude
    split <;> exact congrArg (Prod.mk StreamState.running) rest

/-! ### Samples -/

/-- A sample is accepted: it is to be fed, or only positions the stream. -/
def Accepts (r : Renderer) (s : MediaSample) : Prop :=
  (∃ left, (r.screen s).1 = .ok (.feed left)) ∨ (r.screen s).1 = .ok (.done .preroll)

theorem stage_renegotiate {new : WaveFormat} {answer : Except RenderError Unit}
    (h : r.renegotiate new = (answer, r')) :
    r'.stage = r.stage := by
  rw [eq_of_renegotiate h]
  rfl

/-- A sample that is taken settles a paused stream. -/
theorem stage_take (r : Renderer) (s : MediaSample) :
    ((∃ left, (r.take s).1 = .feed left) ∨ (r.take s).1 = .done .preroll)
      ∧ ∃ time, (r.take s).2.stage
        = (r.state, if r.state = .paused then true else r.settled, time) := by
  constructor
  · unfold take
    cases s.preroll
    · exact .inl ⟨_, rfl⟩
    · exact .inr rfl
  · rw [take_eq]
    exact ⟨_, rfl⟩

/-- A sample that is not accepted leaves the stage; one that is, settles a paused stream. -/
theorem stage_screen (r : Renderer) (s : MediaSample) :
    ¬r.Accepts s ∧ (r.screen s).2.stage = r.stage
      ∨ r.Accepts s ∧ r.state ≠ .stopped ∧ ∃ time, (r.screen s).2.stage
        = (r.state, if r.state = .paused then true else r.settled, time) := by
  unfold Accepts
  rcases screened : r.screen s with ⟨answer, r'⟩
  cases Decided.of_screen screened with
  | declined | stopped | disconnected => exact .inl ⟨by simp, rfl⟩
  | kept _ going =>
    obtain ⟨taken, time, stage⟩ := r.stage_take s
    exact .inr ⟨by simpa using taken, going, time, stage⟩
  | rejected _ _ _ rejected => exact .inl ⟨by simp, stage_renegotiate rejected⟩
  | @agreed r₁ _ _ going _ agreed =>
    obtain ⟨state, rest⟩ := Prod.mk.inj (stage_renegotiate agreed)
    obtain ⟨settled, -⟩ := Prod.mk.inj rest
    obtain ⟨taken, time, stage⟩ := r₁.stage_take s
    rw [state, settled] at stage
    exact .inr ⟨by simpa using taken, going, time, stage⟩

end Renderer

namespace Operation

/-- Whether an operation leaves the stage. -/
def leavesStage : Operation → Bool
  | pause | start _ | stop | endFlush | screen _ | markEnd => false
  | _ => true

theorem stage_apply {op : Operation} (leaves : op.leavesStage = true) (r : Renderer) :
    (op.apply r).stage = r.stage := by
  cases op with
  | pause | start | stop | endFlush | screen | markEnd => cases leaves
  | connect format => exact (r.unmoved_connect format).stage_eq
  | disconnect => exact r.unmoved_disconnect.stage_eq
  | setVolume volume => exact (r.unmoved_setVolume volume).stage_eq
  | setPan pan => exact (r.unmoved_setPan pan).stage_eq
  | close => exact r.unmoved_close.stage_eq
  | _ => exact Renderer.stage_of_standing (standing_apply rfl r)

end Operation

/-! ### What holds between any two operations -/

namespace Renderer

variable {r r' : Renderer}

/-- Only a running stream remembers where its next byte goes, a stopped one has no time, and only a
paused one is unsettled. -/
structure Orderly (r : Renderer) : Prop where
  unset : r.state ≠ .running → ∀ c ∈ r.connection, c.tracker.writePos = none
  timeless : r.state = .stopped → r.mediaTime = none
  unsettled : r.settled = false → r.state = .paused

theorem writePos_stopHardware (r : Renderer) :
    ∀ c ∈ r.stopHardware.connection, c.tracker.writePos = none := by
  unfold stopHardware
  rcases r.onTransport SoundBuffer.stop with ⟨answer, r'⟩
  dsimp only
  split
  · intro c connected
    obtain ⟨c', -, rfl⟩ := Option.map_eq_some_iff.1 connected
    rfl
  · next untracked =>
    intro c connected
    cases untracked.symm.trans (tracker_of_connection connected)

/-- A connection that goes on has no write position unless it had one. -/
theorem Orderly.unset_of_persists (orderly : r.Orderly) (lasts : r.Persists r')
    (idle : r.state ≠ .running) :
    ∀ c ∈ r'.connection, c.tracker.writePos = none := by
  intro c' connected'
  obtain ⟨c, connected, lasts⟩ := lasts.connection c' connected'
  rcases lasts.writePos with unset | kept
  · exact unset
  · exact kept.trans (orderly.unset idle c connected)

theorem Orderly.unset_pause (orderly : r.Orderly) :
    ∀ c ∈ r.pause.2.connection, c.tracker.writePos = none := by
  by_cases running : r.state = .running
  · unfold pause
    rw [running]
    exact r.writePos_stopHardware
  · exact orderly.unset_of_persists r.persists_pause running

theorem Orderly.unset_stop (orderly : r.Orderly) :
    ∀ c ∈ r.stop.connection, c.tracker.writePos = none := by
  by_cases running : r.state = .running
  · unfold stop
    dsimp only
    rw [if_pos running, if_neg (by simp [running])]
    exact r.writePos_stopHardware
  · exact orderly.unset_of_persists r.persists_stop running

/-- An operation that finds the stream at rest and neither pauses nor stops it brings in no write
position. -/
theorem Orderly.unset_apply (orderly : r.Orderly) (idle : r.state ≠ .running) (op : Operation) :
    ∀ c ∈ (op.apply r).connection, c.tracker.writePos = none := by
  by_cases between : op.isBetweenPasses = true
  · exact orderly.unset_of_persists (op.persists_apply between r) idle
  cases op with
  | connect format =>
    rcases h : r.connect format with ⟨answer, r'⟩
    rw [Operation.apply, h]
    rcases connect_inv h with ⟨rfl, -⟩ | ⟨-, buffer, device, -, rfl⟩
    · exact orderly.unset idle
    · rintro _ ⟨⟩
      rfl
  | feed left schedule =>
    obtain ⟨stats, counted⟩ : ∃ stats, (r.feedPass left schedule).2.1 = { r with stats } :=
      feedPass_of_idle (.inr idle) schedule
    rw [Operation.apply, counted]
    exact orderly.unset idle
  | drain schedule =>
    rw [Operation.apply, drainPass, if_pos (.inl idle)]
    exact orderly.unset idle
  | _ => exact absurd rfl between

theorem orderly_of_stage {state : StreamState} {settled : Bool} {time : Option Ticks}
    (stage : r.stage = (state, settled, time))
    (unset : state ≠ .running → ∀ c ∈ r.connection, c.tracker.writePos = none)
    (timeless : state = .stopped → time = none)
    (unsettled : settled = false → state = .paused) :
    r.Orderly := by
  obtain ⟨rfl, rest⟩ := Prod.mk.inj stage
  obtain ⟨rfl, rfl⟩ := Prod.mk.inj rest
  exact ⟨unset, timeless, unsettled⟩

theorem Orderly.apply (orderly : r.Orderly) (op : Operation) : (op.apply r).Orderly := by
  have unset := fun idle => orderly.unset_apply idle op
  by_cases leaves : op.leavesStage = true
  · exact orderly_of_stage (op.stage_apply leaves r) unset orderly.timeless orderly.unsettled
  cases op with
  | pause =>
    exact orderly_of_stage r.stage_pause (fun _ => orderly.unset_pause) (by simp) fun _ => rfl
  | start origin =>
    rcases r.stage_start origin with ⟨running, same⟩ | ⟨state, moved, stage⟩
    · rw [Operation.apply, same]
      exact orderly
    · refine orderly_of_stage stage ?_ ?_ (by simp)
      · intro idle
        exact unset (moved.resolve_left idle ▸ idle)
      · rintro rfl
        exact orderly.timeless (moved.resolve_left (by simp)).symm
  | stop =>
    have stage := r.stage_stop
    split at stage
    · next stopped =>
      exact orderly_of_stage stage (fun _ => orderly.unset_stop) orderly.timeless orderly.unsettled
    · exact orderly_of_stage stage (fun _ => orderly.unset_stop) (fun _ => rfl) (by simp)
  | endFlush => exact orderly_of_stage r.stage_endFlush unset (fun _ => rfl) orderly.unsettled
  | markEnd =>
    have stage : r.markEnd.stage = (r.state, true, r.mediaTime) := rfl
    exact orderly_of_stage stage unset orderly.timeless (by simp)
  | screen sample =>
    rcases r.stage_screen sample with ⟨-, same⟩ | ⟨-, going, time, stage⟩
    · exact orderly_of_stage same unset orderly.timeless orderly.unsettled
    · refine orderly_of_stage stage unset (fun stopped => absurd stopped going) ?_
      split
      · simp
      · exact orderly.unsettled
  | _ => exact absurd rfl leaves

/-! ### Settling -/

theorem Orderly.settled_of_ne (orderly : r.Orderly) (active : r.state ≠ .paused) :
    r.settled = true := by
  cases settled : r.settled with
  | true => rfl
  | false => exact absurd (orderly.unsettled settled) active

theorem Orderly.settled_start (orderly : r.Orderly) (origin : Ticks) :
    (r.start origin).2.settled = true := by
  rcases r.stage_start origin with ⟨running, same⟩ | ⟨state, -, stage⟩
  · rw [same]
    exact orderly.settled_of_ne (running ▸ nofun)
  · exact congrArg (·.2.1) stage

theorem Orderly.settled_stop (orderly : r.Orderly) : r.stop.settled = true := by
  have stage := r.stage_stop
  split at stage
  · next stopped =>
    exact (congrArg (·.2.1) stage).trans (orderly.settled_of_ne (stopped ▸ nofun))
  · exact congrArg (·.2.1) stage

theorem Orderly.settled_screen (orderly : r.Orderly) {s : MediaSample} (accepted : r.Accepts s) :
    (r.screen s).2.settled = true := by
  obtain ⟨-, -, time, stage⟩ := (r.stage_screen s).resolve_left fun refused => refused.1 accepted
  refine (congrArg (·.2.1) stage).trans ?_
  by_cases paused : r.state = .paused
  · exact if_pos paused
  · exact (if_neg paused).trans (orderly.settled_of_ne paused)

end Renderer

/-! ### The past of an unsettled stream -/

namespace Operation

/-- Whether an operation settles a paused stream: a sample is accepted, the end of the stream is
announced, or a start is attempted. -/
def Settles (op : Operation) (r : Renderer) : Prop :=
  match op with
  | screen sample => r.Accepts sample
  | markEnd | start _ => True
  | _ => False

/-- The stream is paused, stays so over a row of operations, and none of them settles it. -/
def Unsettled : List Operation → Renderer → Prop
  | [], r => r.state = .paused
  | op :: ops, r => r.state = .paused ∧ ¬op.Settles r ∧ Unsettled ops (op.apply r)

/-- In a row of operations the stream was paused from the stopped state with a buffer connected, and
has not been settled since. -/
def Pending (ops : List Operation) (r : Renderer) : Prop :=
  ∃ before after, ops = before ++ .pause :: after
    ∧ (applyAll before r).state = .stopped ∧ (applyAll before r).connected = true
    ∧ Unsettled after (applyAll (before ++ [.pause]) r)

variable {r : Renderer}

theorem pending_cons {op : Operation} {ops : List Operation} :
    Pending (op :: ops) r
      ↔ (op = .pause ∧ r.state = .stopped ∧ r.connected = true) ∧ Unsettled ops (op.apply r)
        ∨ Pending ops (op.apply r) := by
  constructor
  · rintro ⟨_ | ⟨first, before⟩, after, row, stopped, connected, unsettled⟩
    · cases row
      exact .inl ⟨⟨rfl, stopped, connected⟩, unsettled⟩
    · cases row
      exact .inr ⟨before, after, rfl, stopped, connected, unsettled⟩
  · rintro (⟨⟨rfl, stopped, connected⟩, unsettled⟩ | ⟨before, after, rfl, rest⟩)
    · exact ⟨[], ops, rfl, stopped, connected, unsettled⟩
    · exact ⟨op :: before, after, rfl, rest⟩

theorem Unsettled.paused {ops : List Operation} (unsettled : Unsettled ops r) :
    r.state = .paused := by
  cases ops with
  | nil => exact unsettled
  | cons op ops => exact unsettled.1

/-- A stream is unsettled after an operation that paused it from the stopped state with a buffer, or
if it was so before and neither was settled nor left the paused state. -/
theorem settled_apply (orderly : r.Orderly) (op : Operation) :
    (op.apply r).settled = false
      ↔ (op = .pause ∧ r.state = .stopped ∧ r.connected = true)
        ∨ r.settled = false ∧ ¬op.Settles r ∧ (op.apply r).state = .paused := by
  have paused := orderly.unsettled
  -- Most operations leave the flag and the state.
  have other (state : (op.apply r).state = r.state) (settled : (op.apply r).settled = r.settled)
      (neither : op ≠ .pause ∧ ¬op.Settles r) :
      (op.apply r).settled = false
        ↔ (op = .pause ∧ r.state = .stopped ∧ r.connected = true)
          ∨ r.settled = false ∧ ¬op.Settles r ∧ (op.apply r).state = .paused := by
    rw [settled, state]
    simp only [neither, false_and, false_or, not_false_eq_true, true_and]
    exact ⟨fun unsettled => ⟨unsettled, paused unsettled⟩, And.left⟩
  by_cases leaves : op.leavesStage = true
  · have same := op.stage_apply leaves r
    refine other (congrArg Prod.fst same) (congrArg (·.2.1) same) ?_
    cases op with
    | pause | start | stop | endFlush | screen | markEnd => cases leaves
    | _ => exact ⟨by simp, id⟩
  cases op with
  | pause =>
    have stage := r.stage_pause
    rw [show (pause.apply r).state = .paused from congrArg Prod.fst stage,
      show (pause.apply r).settled = _ from congrArg (·.2.1) stage]
    by_cases entered : r.state = .stopped ∧ r.connected = true
    · simp [entered]
    · simp [entered, Settles]
  | start origin =>
    have settled : ((start origin).apply r).settled = true := orderly.settled_start origin
    simp [settled, Settles]
  | stop =>
    have settled : (stop.apply r).settled = true := orderly.settled_stop
    have stopped : (stop.apply r).state = .stopped := r.state_stop.1
    simp [settled, stopped]
  | endFlush =>
    have stage := r.stage_endFlush
    exact other (congrArg Prod.fst stage) (congrArg (·.2.1) stage) ⟨by simp, id⟩
  | markEnd => simp [apply, Renderer.markEnd, Settles]
  | screen sample =>
    by_cases accepted : r.Accepts sample
    · have settled : ((screen sample).apply r).settled = true := orderly.settled_screen accepted
      simp [settled, Settles, accepted]
    · obtain ⟨-, same⟩ := (r.stage_screen sample).resolve_right fun taken => accepted taken.1
      exact other (congrArg Prod.fst same) (congrArg (·.2.1) same) ⟨by simp, accepted⟩
  | _ => exact absurd rfl leaves

/-- After a row of operations a stream is unsettled exactly if it was so before and has not been
settled, or was paused from the stopped state in the row and has not been settled since. -/
theorem settled_applyAll (orderly : r.Orderly) (ops : List Operation) :
    (applyAll ops r).settled = false
      ↔ r.settled = false ∧ Unsettled ops r ∨ Pending ops r := by
  induction ops generalizing r with
  | nil =>
    have paused := orderly.unsettled
    simp only [applyAll_nil, Unsettled, Pending, List.nil_eq, List.append_eq_nil_iff,
      List.cons_ne_nil, and_false, false_and, exists_false, or_false]
    exact ⟨fun unsettled => ⟨unsettled, paused unsettled⟩, And.left⟩
  | cons op ops ih =>
    rw [applyAll_cons, ih (orderly.apply op), settled_apply orderly, pending_cons, Unsettled]
    constructor
    · rintro (⟨entered | ⟨unsettled, spared, -⟩, stays⟩ | pending)
      · exact .inr (.inl ⟨entered, stays⟩)
      · exact .inl ⟨unsettled, orderly.unsettled unsettled, spared, stays⟩
      · exact .inr (.inr pending)
    · rintro (⟨unsettled, -, spared, stays⟩ | ⟨entered, stays⟩ | pending)
      · exact .inl ⟨.inr ⟨unsettled, spared, stays.paused⟩, stays⟩
      · exact .inl ⟨.inl entered, stays⟩
      · exact .inr pending

end Operation

/-! ### Every renderer -/

namespace Renderer

variable {device : VirtualDevice} {config : RendererConfig} {r : Renderer}

theorem orderly_of_create (created : create device config = .ok r) : r.Orderly := by
  obtain ⟨-, rfl⟩ := create_inv created
  exact ⟨fun _ c connected => absurd connected (Option.not_mem_none c), fun _ => rfl, nofun⟩

theorem Orderly.applyAll (orderly : r.Orderly) (ops : List Operation) :
    (Operation.applyAll ops r).Orderly := by
  induction ops generalizing r with
  | nil => exact orderly
  | cons op ops ih => exact ih (orderly.apply op)

/-- Whatever happens to a new renderer, and whatever fails in it: where the next byte goes is
remembered by a running stream only; there is a format exactly if there is a buffer, and it is a
valid one; a stopped stream has no time; and asked for its state, the renderer answers that it has
not settled exactly if the stream is paused, was so from the stopped state with a buffer connected,
and no sample was accepted, no end of the stream announced and no start attempted since. -/
theorem awaitState_applyAll (created : create device config = .ok r) (ops : List Operation) :
    ((applyAll ops r).state ≠ .running → ∀ t ∈ (applyAll ops r).tracker, t.writePos = none)
      ∧ ((applyAll ops r).format.isSome = (applyAll ops r).tracker.isSome
        ∧ ∀ f ∈ (applyAll ops r).format, f.validate = .ok ())
      ∧ ((applyAll ops r).state = .stopped → (applyAll ops r).mediaTime = none)
      ∧ ((applyAll ops r).awaitState.1 = false
        ↔ (applyAll ops r).awaitState.2 = .paused ∧ Operation.Pending ops r) := by
  have orderly := (orderly_of_create created).applyAll ops
  have formed := ((Reachable.create created).applyAll ops).wellFormed
  have new : r.settled = true := by
    obtain ⟨-, rfl⟩ := create_inv created
    rfl
  have settled := Operation.settled_applyAll (orderly_of_create created) ops
  refine ⟨?_, ⟨?_, ?_⟩, orderly.timeless, ?_⟩
  · intro idle t tracked
    obtain ⟨c, connected, rfl⟩ := Option.map_eq_some_iff.1 tracked
    exact orderly.unset idle c connected
  · rw [format, tracker, Option.isSome_map, Option.isSome_map]
  · intro f known
    obtain ⟨c, connected, rfl⟩ := Option.map_eq_some_iff.1 known
    exact (formed.connection c connected).valid
  · rw [new] at settled
    unfold awaitState
    constructor
    · intro unsettled
      exact ⟨orderly.unsettled unsettled, (settled.1 unsettled).resolve_left (by simp)⟩
    · rintro ⟨-, pending⟩
      exact settled.2 (.inr pending)

/-- A stream that is paused with a buffer has not settled, and has not after a flush. -/
theorem awaitState_of_flushed_pause :
    create unconnected.device unconnected.config = .ok unconnected
      ∧ (applyAll [.connect (.pcm 1000 1 8), .pause, .beginFlush, .endFlush]
        unconnected).awaitState.1 = false := by
  have created : create unconnected.device unconnected.config = .ok unconnected := rfl
  obtain ⟨-, -, -, settled⟩ := awaitState_applyAll created
    [.connect (.pcm 1000 1 8), .pause, .beginFlush, .endFlush]
  refine ⟨created, settled.2 ⟨rfl, [.connect (.pcm 1000 1 8)], [.beginFlush, .endFlush], rfl, rfl,
    rfl, ?_⟩⟩
  exact ⟨rfl, id, rfl, id, rfl⟩

end Renderer

end Playout
