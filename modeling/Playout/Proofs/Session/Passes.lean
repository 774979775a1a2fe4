import Playout.Proofs.Session.Control

/-!
# Passes and the ring

A pass looks at the hardware, and then writes if there is a place. A look leaves the ring as the
answer of the hardware says (`ringView_of_look`), or alone where there is none; a place is found
only after an answer (`answer_of_planChunk`).
-/

namespace Playout.Renderer

variable {r r' : Renderer}

/-! ### Looking -/

theorem keeps_atReading (r : Renderer) {acts : List Disturbance}
    (harmless : acts.all Disturbance.harmless = true) :
    r.Keeps (r.atReading acts) := by
  unfold atReading
  split
  · exact r.keeps_refl
  · exact r.keeps_disturbAll harmless

/-- What the hardware answers to the next look. -/
def answer (r : Renderer) (schedule : Schedule) : Option Cursor :=
  match schedule with
  | [] => none
  | acts :: _ => (r.atReading acts).tracker.bind (·.answer)

/-- What the hardware answers to the look of a plan. None is made if the stream time does not fit
its word. -/
def planAnswer (r : Renderer) (writeAt : Option Ticks) (schedule : Schedule) : Option Cursor :=
  match r.timing writeAt with
  | .ok _ => r.answer schedule
  | .error _ => none

theorem planAnswer_of_timing {writeAt : Option Ticks} {timing : Option Timing}
    (timed : r.timing writeAt = .ok timing) (schedule : Schedule) :
    r.planAnswer writeAt schedule = r.answer schedule := by
  rw [planAnswer, timed]

theorem planAnswer_of_overflow {writeAt : Option Ticks} {fault : Fault}
    (untimed : r.timing writeAt = .error fault) (schedule : Schedule) :
    r.planAnswer writeAt schedule = none := by
  rw [planAnswer, untimed]

/-- A plan reads what the hardware answers, if anything. -/
theorem answer_of_planAnswer {writeAt : Option Ticks} {schedule : Schedule} {cursor : Cursor}
    (read : r.planAnswer writeAt schedule = some cursor) : r.answer schedule = some cursor := by
  unfold planAnswer at read
  split at read
  · exact read
  · cases read

/-- A look that succeeds was scheduled, and the tracker of a connection was put to work. -/
theorem look_inv {schedule rest : Schedule} {a : α}
    {work : Connection → Except Failure α × PositionTracker}
    (looked : r.look schedule work = (.ok a, r', rest)) :
    ∃ acts c t, schedule = acts :: rest ∧ (r.atReading acts).connection = some c
      ∧ work c = (.ok a, t) ∧ r' = (r.atReading acts).setTracker t := by
  cases Looked.of_look looked with
  | found acts c connected worked => exact ⟨acts, c, _, rfl, connected, Prod.ext worked rfl, rfl⟩

theorem ringView_of_look {v : RingView} {schedule rest : Schedule}
    {work : Connection → Except Failure α × PositionTracker} {answer : Except RenderError α}
    (harmless : schedule.harmless = true) (sound : v.Sound) (h : r.ringView = some v)
    (refreshes : ∀ c, ∃ draining, (work c).2 = (c.tracker.refresh draining).2)
    (looked : r.look schedule work = (answer, r', rest)) :
    r'.ringView = some (v.read (r.answer schedule)) := by
  cases Looked.of_look looked with
  | unscheduled => exact h
  | disconnected acts disconnected =>
    have harmless := Schedule.harmless_head harmless
    obtain ⟨c, connected, -⟩ :=
      exists_of_ringView ((r.keeps_atReading harmless).ringView_eq.trans h)
    cases disconnected.symm.trans connected
  | failed acts c connected | found acts c connected =>
    have harmless := Schedule.harmless_head harmless
    have kept := (r.keeps_atReading harmless).ringView_eq.trans h
    obtain ⟨c', connected', rfl⟩ := exists_of_ringView kept
    obtain rfl := Option.some.inj (connected.symm.trans connected')
    obtain ⟨draining, refreshed⟩ := refreshes c
    rw [ringView_setTracker, kept, Option.map_some, refreshed, c.tracker.view_refresh sound,
      Renderer.answer, tracker_of_connection connected, Option.bind_some]

theorem refresh_of_plan (p : WritePlanner) (f : WaveFormat) (timing : Option Timing)
    (t : PositionTracker) :
    (p.plan t f timing).2 = (t.refresh false).2 := by
  unfold WritePlanner.plan PositionTracker.update
  split
  · next failed => rw [failed]
  · next found =>
    rw [found]
    split
    · rfl
    · split <;> rfl

theorem ringView_of_planChunk {v : RingView} {schedule rest : Schedule}
    {writeAt : Option Ticks} {chunk : Except RenderError (Option Chunk)}
    (harmless : schedule.harmless = true) (sound : v.Sound) (h : r.ringView = some v)
    (planned : r.planChunk writeAt schedule = (chunk, r', rest)) :
    r'.ringView = some (v.read (r.planAnswer writeAt schedule)) := by
  cases Planned.of_planChunk planned with
  | overflow untimed =>
    rw [planAnswer_of_overflow untimed]
    exact h
  | disconnected disconnected =>
    obtain ⟨c, connected, -⟩ := exists_of_ringView h
    cases disconnected.symm.trans connected
  | failed timed looked | found timed looked =>
    have view := ringView_of_look harmless sound h (fun _ => ⟨false, refresh_of_plan ..⟩) looked
    rw [planAnswer_of_timing timed]
    exact view

/-- A place is one that was planned, and nothing but the looking happened. -/
theorem planChunk_inv {writeAt : Option Ticks} {schedule rest : Schedule} {chunk : Option Chunk}
    (planned : r.planChunk writeAt schedule = (.ok chunk, r', rest)) :
    ∃ acts c timing plan positions t, r.timing writeAt = .ok timing ∧ schedule = acts :: rest
      ∧ (r.atReading acts).connection = some c
      ∧ r.planner.plan c.tracker c.format timing = (.ok (plan, positions), t)
      ∧ r'.connection = some { c with tracker := t } ∧ chunk = placeOf plan := by
  -- The place is none or some, as the plan says.
  generalize answered : (Except.ok chunk : Except RenderError (Option Chunk)) = answer at planned
  cases Planned.of_planChunk planned with
  | overflow | disconnected | failed => cases answered
  | found timed looked =>
    obtain ⟨acts, c, t, rfl, connected, worked, rfl⟩ := look_inv looked
    have kept : ((r.atReading acts).setTracker t).connection = some { c with tracker := t } := by
      rw [setTracker, connected]
      rfl
    exact ⟨acts, c, _, _, _, t, timed, rfl, connected, worked, kept, Except.ok.inj answered⟩

/-! ### Places come from answers -/

theorem answer_of_plan {p : WritePlanner} {f : WaveFormat} {timing : Option Timing}
    {t : PositionTracker} {plan : WritePlan × Positions}
    (h : (p.plan t f timing).1 = .ok plan) :
    t.answer.isSome :=
  PositionTracker.answer_of_refresh (WritePlanner.plan_eq_ok.1 (Prod.ext h rfl)).1

/-- A place is found only by a look that is answered. -/
theorem answer_of_planChunk {writeAt : Option Ticks} {schedule rest : Schedule} {chunk : Chunk}
    (planned : r.planChunk writeAt schedule = (.ok (some chunk), r', rest)) :
    (r.planAnswer writeAt schedule).isSome := by
  obtain ⟨acts, c, timing, plan, positions, t, timed, rfl, connected, worked, -⟩ :=
    planChunk_inv planned
  rw [planAnswer_of_timing timed, Renderer.answer, tracker_of_connection connected]
  exact answer_of_plan (congrArg Prod.fst worked)

theorem ringView_writeChunk {v : RingView} (sound : v.Sound) (h : r.ringView = some v)
    (data : List UInt8) (chunk : Chunk) :
    (r.writeChunk data chunk).2.ringView = some (v.put (placed data chunk)) := by
  obtain ⟨c, connected, rfl⟩ := exists_of_ringView h
  have tracked := tracker_of_connection connected
  rcases written : r.writeChunk data chunk with ⟨outcome, r'⟩
  cases Written.of_writeChunk written with
  | stale stale =>
    rw [placed, if_pos stale]
    exact h
  | disconnected fresh disconnected => cases disconnected.symm.trans connected
  | refused c' fresh connected' refused =>
    obtain rfl := Option.some.inj (connected.symm.trans connected')
    rw [c.tracker.commit_eq sound] at refused
    cases refused
  | granted c' fresh connected' granted =>
    obtain rfl := Option.some.inj (connected.symm.trans connected')
    rw [c.tracker.commit_eq sound] at granted
    cases granted
    rw [placed, if_neg (Nat.not_le.2 fresh)]
    exact (r.ringView_setTracker _).trans (congrArg (Option.map _) h)

/-! ### Whole passes -/

theorem keeps_feedPass_of_idle {left : Feed} (idle : left.data.isEmpty ∨ r.state ≠ .running)
    (schedule : Schedule) :
    r.Keeps (r.feedPass left schedule).2.1 := by
  obtain ⟨stats, counted⟩ := feedPass_of_idle idle schedule
  rw [counted]
  exact ⟨rfl⟩

theorem keeps_feedPass_of_none (disconnected : r.connection = none) (left : Feed)
    (schedule : Schedule) :
    r.Keeps (r.feedPass left schedule).2.1 := by
  by_cases idle : left.data.isEmpty ∨ r.state ≠ .running
  · exact keeps_feedPass_of_idle idle schedule
  · have planned : ∃ e, r.planChunk left.writeAt schedule = (.error e, r, schedule) := by
      unfold planChunk
      split
      · exact ⟨_, rfl⟩
      · exact ⟨_, if_pos (by simp [connected, disconnected])⟩
    obtain ⟨e, planned⟩ := planned
    rw [feedPass_of_not_idle idle, planned]
    exact r.keeps_refl

theorem keeps_drainPass_of_none (disconnected : r.connection = none) (schedule : Schedule) :
    r.Keeps (r.drainPass schedule).2.1 := by
  unfold drainPass
  rw [if_pos (by simp [connected, disconnected])]
  exact r.keeps_refl

/-- A call fails at once when it holds the renderer again only for the state of the stream. -/
theorem eq_wrongState_of_feedWake {e : RenderError} (woken : r.feedWake = some (.error e)) :
    e = .wrongState := by
  simp only [feedWake, Option.ite_none_right_eq_some, Option.some.injEq] at woken
  obtain ⟨-, answered⟩ := woken
  split at answered
  · cases answered
  · exact (Except.error.inj answered).symm

end Playout.Renderer
