import Playout.Proofs.Session.Likeness

/-!
# Starts that the hardware refuses

A start prepares the stream before it asks the hardware to play: it sets the origin, settles the
stream, and, from the stopped state, opens it again and lowers the interrupt. If the hardware then
refuses, the stream stays in its state and all of that stays done (`start_refused_inv`).

The origin and the interrupt are of no consequence. The rest is, unless it was done already: after a
refused start a paused stream has settled without a sample, and a stopped one has forgotten that it
had ended. Otherwise nobody can tell the renderer from one that was not started at all
(`Reachable.after_refused_start`).
-/

namespace Playout

theorem SoundBuffer.play_refused_inv {b b' : SoundBuffer} {looping : Bool} {e : TransportError}
    (refused : b.play looping = (.error e, b')) :
    e = .controlFailed .play ∧ b' = (Disturbance.fail .play false).onBuffer b := by
  unfold play at refused
  split at refused
  · cases refused
    exact ⟨rfl, rfl⟩
  split at refused <;> cases refused

namespace Renderer

variable {r r' : Renderer}

theorem unmoved_fail (r : Renderer) (fault : LineFault) (on : Bool) :
    r.Unmoved (r.disturb (.fail fault on)) := by
  rcases r with ⟨_, _, _, _ | c⟩ <;> rfl

/-- The hardware has refused to play, and will not do so again. -/
theorem start_refused_inv {origin : Ticks} {e : RenderError}
    (refused : r.start origin = (.error e, r')) :
    e = .hardware (.controlFailed .play) ∧ r.state ≠ .running
      ∧ r' = (r.disturb (.fail .play false)).prepared origin := by
  cases Started.of_start refused with
  | refused idle refused =>
    rcases onTransport_inv refused with ⟨-, answered, -⟩ | ⟨c, b, connected, answered, rfl⟩
    · cases answered
    obtain ⟨rfl, rfl⟩ := SoundBuffer.play_refused_inv answered
    refine ⟨rfl, idle, ?_⟩
    rw [prepared_eq] at connected ⊢
    rcases r with ⟨_, _, _, _ | c'⟩
    · cases connected
    obtain rfl : c' = c := Option.some.inj connected
    rw [prepared_eq]
    rfl

theorem Reachable.orderly (reached : r.Reachable) : r.Orderly := by
  induction reached with
  | create created => exact orderly_of_create created
  | operate _ op orderly => exact orderly.apply op

/-- That a stream at rest was prepared can be told only by what that has ended: a stopped stream was
still at its end, or a paused one had not settled. -/
theorem Orderly.indistinguishable_prepared_iff (orderly : r.Orderly) (idle : r.state ≠ .running)
    (origin : Ticks) (calls : List Stage) :
    Traffic.Indistinguishable ⟨r, calls⟩ ⟨r.prepared origin, calls⟩
      ↔ if r.state = .stopped then r.ended = false else r.settled = true := by
  constructor
  · intro same
    have shown : (r.prepared origin).display = r.display := (same []).1
    rw [prepared_eq] at shown
    have ended : (if r.state = .stopped then false else r.ended) = r.ended :=
      congrArg Display.ended shown
    have settled : true = r.settled := congrArg Display.settled shown
    split
    · next stopped => rwa [if_pos stopped, eq_comm] at ended
    · exact settled.symm
  · intro unchanged
    have settled : r.settled = true := by
      split at unchanged
      · next stopped => exact orderly.settled_of_ne (stopped ▸ nofun)
      · exact unchanged
    have ended : (if r.state = .stopped then false else r.ended) = r.ended := by
      split at unchanged
      · next stopped => rw [if_pos stopped, unchanged]
      · next paused => exact if_neg paused
    have veiled : r.prepared origin
        = r.veil origin fun level => if r.state = .stopped then false else level := by
      rw [prepared_eq, veil, ended, ← settled]
    refine Traffic.indistinguishable_of_sight (congrArg (Traffic.mk · calls) ?_)
    rw [veiled]
    exact sight_veil _ fun running => absurd running idle

/-- What a start leaves that the hardware has refused: the stream prepared and in its state, and no
event. Nobody can tell the renderer from one that was not started, exactly if a stopped stream had
not ended before, and a paused one had settled. -/
theorem Reachable.after_refused_start (reached : r.Reachable) {origin : Ticks} {e : RenderError}
    (refused : r.start origin = (.error e, r')) :
    e = .hardware (.controlFailed .play) ∧ r.state ≠ .running
      ∧ r' = { r.disturb (.fail .play false) with
        streamStart := origin
        settled := true
        ended := if r.state = .stopped then false else r.ended
        interrupt := if r.state = .stopped then false else r.interrupt }
      ∧ ∀ calls : List Stage,
        Traffic.Indistinguishable ⟨r.disturb (.fail .play false), calls⟩ ⟨r', calls⟩
          ↔ if r.state = .stopped then r.ended = false else r.settled = true := by
  obtain ⟨rfl, idle, rfl⟩ := start_refused_inv refused
  have unmoved := r.unmoved_fail .play false
  have state_eq := unmoved.state_eq
  have ended_eq : (r.disturb (.fail .play false)).ended = r.ended := by rw [unmoved]
  have settled_eq : (r.disturb (.fail .play false)).settled = r.settled := by rw [unmoved]
  have interrupt_eq : (r.disturb (.fail .play false)).interrupt = r.interrupt := by rw [unmoved]
  have orderly := (reached.operate (.disturb (.fail .play false))).orderly
  refine ⟨rfl, idle, ?_, fun calls => ?_⟩
  · simp only [prepared_eq, state_eq, ended_eq, interrupt_eq]
  · have told := orderly.indistinguishable_prepared_iff (state_eq ▸ idle) origin calls
    rwa [show (Operation.disturb (.fail .play false)).apply r = r.disturb (.fail .play false)
      from rfl, state_eq, ended_eq, settled_eq] at told

/-- A stream on the ring of `tenBytes` that is paused, with hardware that will refuse to play. -/
def refusingTenBytes : Renderer :=
  Operation.applyAll [.connect (.pcm 1000 1 8), .pause, .disturb (.fail .play true)] unconnected

theorem reachable_refusingTenBytes : refusingTenBytes.Reachable := by
  have created : create unconnected.device unconnected.config = .ok unconnected := rfl
  exact (Reachable.create created).applyAll _

/-- After its first sample nobody can tell that the stream was started in vain. -/
theorem refused_start_of_settled_stream :
    ∃ r r', r = (refusingTenBytes.screen { data := [1] }).2 ∧ r.Reachable
      ∧ r.start 70 = (.error (.hardware (.controlFailed .play)), r')
      ∧ Traffic.Indistinguishable ⟨r.disturb (.fail .play false), []⟩ ⟨r', []⟩ := by
  have reached := reachable_refusingTenBytes.operate (.screen { data := [1] })
  have refused : (refusingTenBytes.screen { data := [1] }).2.start 70
      = (.error (.hardware (.controlFailed .play)), _) := rfl
  obtain ⟨-, -, -, told⟩ := reached.after_refused_start refused
  exact ⟨_, _, rfl, reached, refused, (told []).2 rfl⟩

/-- A paused stream settles without a sample by a start that is refused. A stopped stream that had
ended declines samples; after a refused start it says that they are not in place. -/
theorem leftovers_of_refused_start :
    refusingTenBytes.Reachable
      ∧ (refusingTenBytes.start 0).1 = .error (.hardware (.controlFailed .play))
      ∧ refusingTenBytes.awaitState = (false, .paused)
      ∧ (refusingTenBytes.start 0).2.awaitState = (true, .paused)
      ∧ ∃ r, r = (refusingTenBytes.markEnd).stop ∧ r.Reachable
        ∧ (r.start 0).1 = .error (.hardware (.controlFailed .play))
        ∧ (r.screen { data := [1] }).1 = .ok (.done .declined)
        ∧ ((r.start 0).2.screen { data := [1] }).1 = .error .wrongState := by
  have reached := reachable_refusingTenBytes
  refine ⟨reached, rfl, rfl, rfl, _, rfl, ?_, rfl, rfl, rfl⟩
  exact (reached.operate .markEnd).operate .stop

end Renderer

end Playout
