import Playout.Proofs.Session.Standing
import Playout.Proofs.Session.Veil

/-!
# Without a clock times do not matter

The time on the clock enters at two places only: a sample that is taken notes its time if there is a
clock (`Renderer.take`), and a plan is timed if there is stream time (`Renderer.planChunk`). The
origin of stream time enters at the second alone.

So without a clock nothing depends on them. To erase them, from the renderer, from the calls under
way and from what is about to happen, commutes with every deed (`Traffic.perform_timeless`), and two
rows of deeds that are the same but for times have the same replies and leave the same at every
moment (`Traffic.trace_eq_of_clockless`).

## Design points

* **What is erased is as little as possible:** the origin of stream time, and the time that the data
  of a call is still meant for. The times that a clock shows stay.
* **The clock may be there in between.** It must be gone whenever a sample is handed over and
  whenever a call goes on.
-/

namespace Playout

/-! ### Erasing times -/

def MediaSample.timeless (s : MediaSample) : MediaSample := { s with start := none, stop := none }

def Feed.timeless (left : Feed) : Feed := { left with writeAt := none }

def PassEnd.timeless : PassEnd → PassEnd
  | .returned result => .returned result
  | .proceed left => .proceed left.timeless
  | .wait left => .wait left.timeless

def Renderer.Admission.timeless : Renderer.Admission → Renderer.Admission
  | .done receipt => .done receipt
  | .feed left => .feed left.timeless

def Stage.timeless : Stage → Stage
  | feed left => feed left.timeless
  | wake left => wake left.timeless
  | drain => drain
  | finish drained => finish drained

def Onward.timeless : Onward → Onward
  | returned result => returned result
  | next stage => next stage.timeless

/-- Only a start has a time that is not one on a clock. -/
def Operation.timeless : Operation → Operation
  | start _ => start 0
  | op => op

theorem Operation.isOutside_timeless (op : Operation) : op.timeless.isOutside = op.isOutside := by
  cases op <;> rfl

def Deed.timeless : Deed → Deed
  | operate op outside => operate op.timeless (op.isOutside_timeless.trans outside)
  | receive sample => receive sample.timeless
  | endOfStream => endOfStream
  | go i schedule => go i schedule

namespace Renderer

/-- The renderer without the origin of stream time: `veil 0 id`, so what commutes with every veil
commutes with this. -/
def timeless (r : Renderer) : Renderer := { r with streamStart := 0 }

variable (r : Renderer)

@[simp] theorem state_timeless : r.timeless.state = r.state := rfl

@[simp] theorem connected_timeless : r.timeless.connected = r.connected := rfl

@[simp] theorem ended_timeless : r.timeless.ended = r.ended := rfl

@[simp] theorem flushing_timeless : r.timeless.flushing = r.flushing := rfl

@[simp] theorem clockTime_timeless : r.timeless.clockTime = r.clockTime := rfl

/-! ### Control operations -/

theorem pause_timeless : r.timeless.pause = r.pause.map id timeless := by
  rcases r with ⟨_, _, _ | _ | _, _ | c⟩ <;> rfl

theorem start_timeless (origin : Ticks) :
    r.timeless.start 0 = (r.start origin).map id timeless := by
  by_cases running : r.state = .running
  · rw [start, start, if_pos running, if_pos (show r.timeless.state = .running from running)]
    rfl
  · have prepared : r.timeless.prepared 0 = (r.prepared origin).veil 0 id := by
      rw [prepared_eq, prepared_eq]
      rfl
    have started : r.timeless.start 0 = (r.start origin).map id (veil 0 id) :=
      start_veil running (show r.timeless.state ≠ .running from running) prepared
    exact started

theorem endFlush_timeless : r.timeless.endFlush = r.endFlush.map id timeless := by
  rcases r with ⟨_, _, _, _ | c⟩
  · rfl
  · simp only [endFlush, tracker, timeless, Option.map_some]
    split <;> rfl

/-! ### Screening -/

theorem clockTime_renegotiate (new : WaveFormat) :
    (r.renegotiate new).2.clockTime = r.clockTime := by
  rcases changed : r.renegotiate new with ⟨answer, r'⟩
  rw [eq_of_renegotiate changed]
  rfl

variable {r}

/-- Without a clock it makes no difference to a sample that is taken what its times are. -/
theorem take_timeless (clockless : r.clockTime = none) (s : MediaSample) :
    r.timeless.take s.timeless = (r.take s).map Admission.timeless timeless := by
  simp only [take, clockTime_timeless, clockless, Option.isSome_none, Bool.false_eq_true, false_and,
    if_false, MediaSample.timeless]
  rcases s with ⟨data, start, stop, _ | _, format⟩ <;>
    by_cases paused : r.state = .paused <;>
      (simp only [paused, if_true, if_false, state_timeless]; rfl)

theorem screen_timeless (clockless : r.clockTime = none) (s : MediaSample) :
    r.timeless.screen s.timeless
      = ((r.screen s).1.map Admission.timeless, (r.screen s).2.timeless) := by
  simp only [screen, ended_timeless, flushing_timeless, state_timeless, connected_timeless]
  by_cases declined : (r.ended || r.flushing) = true
  · simp only [declined, if_true]
    rfl
  by_cases stopped : r.state = .stopped
  · simp only [declined, stopped, if_true]
    rfl
  by_cases disconnected : r.connected = false
  · simp only [declined, stopped, disconnected, Bool.not_false, if_true, if_false]
    rfl
  have connected : r.connected = true := by simpa using disconnected
  simp only [declined, stopped, connected, Bool.not_true, Bool.false_eq_true, if_false,
    show s.timeless.format = s.format from rfl]
  cases s.format with
  | none =>
    simp only [take_timeless clockless]
    rfl
  | some new =>
    have switched : r.timeless.renegotiate new = (r.renegotiate new).map id timeless :=
      @renegotiate_veil 0 id r new
    simp only [switched]
    rcases changed : r.renegotiate new with ⟨e | _, r'⟩
    · rfl
    · have clockless' : r'.clockTime = none := by
        rw [← clockless, ← r.clockTime_renegotiate new, changed]
      simp only [Prod.map, id, take_timeless clockless']
      rfl

/-! ### Passes -/

/-- Without a clock a plan is the same for whatever time the data is meant. -/
theorem planChunk_timeless (clockless : r.clockTime = none) (writeAt writeAt' : Option Ticks)
    (schedule : Schedule) :
    r.timeless.planChunk writeAt' schedule
      = ((r.planChunk writeAt schedule).1, (r.planChunk writeAt schedule).2.1.timeless,
        (r.planChunk writeAt schedule).2.2) := by
  have untimed : r.planChunk writeAt' schedule = r.planChunk writeAt schedule := by
    unfold planChunk
    rw [timing_of_clockless clockless, timing_of_clockless clockless]
  have stream : (r.veil 0 id).streamTime = r.streamTime := by
    rw [streamTime, streamTime, clockTime_veil, clockless]
  rw [← untimed]
  exact r.planChunk_veil rfl stream writeAt' schedule

theorem writeChunk_timeless (r : Renderer) (data : List UInt8) (chunk : Chunk) :
    r.timeless.writeChunk data chunk = (r.writeChunk data chunk).map PassEnd.timeless timeless := by
  rw [writeChunk, writeChunk]
  by_cases stale : data.length ≤ chunk.skip
  · simp only [stale, if_true]
    rfl
  simp only [stale, if_false]
  rcases r with ⟨_, _, _, _ | c⟩
  · rfl
  · simp only [timeless, tracker, Option.map_some]
    rcases c.tracker.commit _ _ with ⟨_ | _, t⟩ <;> rfl

theorem feedPass_timeless (clockless : r.clockTime = none) (left : Feed) (schedule : Schedule) :
    r.timeless.feedPass left.timeless schedule
      = ((r.feedPass left schedule).1.timeless, (r.feedPass left schedule).2.1.timeless,
        (r.feedPass left schedule).2.2) := by
  simp only [feedPass, state_timeless, show left.timeless.data = left.data from rfl]
  by_cases idle : left.data.isEmpty = true ∨ r.state = .stopped
  · simp only [idle, if_true]
    rfl
  simp only [idle, if_false]
  by_cases running : r.state = .running
  · simp only [running, if_true, planChunk_timeless clockless left.writeAt]
    rcases r.planChunk left.writeAt schedule with ⟨e | _ | chunk, r', rest⟩
    · rfl
    · rfl
    · simp only [writeChunk_timeless]
      rfl
  · simp only [running, if_false]
    rfl

theorem drainPass_timeless (r : Renderer) (schedule : Schedule) :
    r.timeless.drainPass schedule
      = ((r.drainPass schedule).1, (r.drainPass schedule).2.1.timeless,
        (r.drainPass schedule).2.2) :=
  @drainPass_veil 0 id r rfl schedule

theorem finishEnd_timeless (r : Renderer) (drained : Bool) :
    r.timeless.finishEnd drained = (r.finishEnd drained).map id timeless :=
  @finishEnd_veil 0 id r drained

end Renderer

/-! ### Operations from outside -/

theorem Operation.apply_timeless {op : Operation} (outside : op.isOutside = true) (r : Renderer) :
    op.timeless.apply r.timeless = (op.apply r).timeless := by
  cases op with
  | screen | feed | markEnd | drain | finishEnd => cases outside
  | connect format => exact congrArg Prod.snd (@Renderer.connect_veil 0 id r format)
  | disconnect => exact congrArg Prod.snd (@Renderer.disconnect_veil 0 id r)
  | pause => exact congrArg Prod.snd r.pause_timeless
  | start origin => exact congrArg Prod.snd (r.start_timeless origin)
  | stop => exact @Renderer.stop_veil 0 id r rfl
  | endFlush => exact congrArg Prod.snd r.endFlush_timeless
  | setVolume volume => exact congrArg Prod.snd (@Renderer.setVolume_veil 0 id r volume)
  | setPan pan => exact congrArg Prod.snd (@Renderer.setPan_veil 0 id r pan)
  | close => exact @Renderer.close_veil 0 id r
  | disturb act => exact @Renderer.disturb_veil 0 id r rfl act
  | _ => rfl

theorem Operation.reply_timeless (op : Operation) (r : Renderer) :
    op.timeless.reply r.timeless = op.reply r := by
  cases op with
  | connect format => exact congrArg (Reply.answer ·.1) (@Renderer.connect_veil 0 id r format)
  | disconnect => exact congrArg (Reply.answer ·.1) (@Renderer.disconnect_veil 0 id r)
  | pause => exact congrArg (Reply.answer ·.1) r.pause_timeless
  | start origin => exact congrArg (Reply.answer ·.1) (r.start_timeless origin)
  | endFlush => exact congrArg (Reply.answer ·.1) r.endFlush_timeless
  | setVolume volume => exact congrArg (Reply.answer ·.1) (@Renderer.setVolume_veil 0 id r volume)
  | setPan pan => exact congrArg (Reply.answer ·.1) (@Renderer.setPan_veil 0 id r pan)
  | _ => rfl

/-! ### Calls -/

namespace Onward

theorem ofScreen_timeless (admission : Except RenderError Renderer.Admission) :
    ofScreen (admission.map Renderer.Admission.timeless) = (ofScreen admission).timeless := by
  rcases admission with e | receipt | left <;> rfl

theorem ofPass_timeless (outcome : PassEnd) :
    ofPass outcome.timeless = (ofPass outcome).timeless := by
  rcases outcome with (e | _) | left | left <;> rfl

theorem ofDrain_timeless (outcome : DrainEnd) : (ofDrain outcome).timeless = ofDrain outcome := by
  cases outcome <;> rfl

theorem ofFinish_timeless (answer : Except RenderError Unit) :
    (ofFinish answer).timeless = ofFinish answer := by
  cases answer <;> rfl

theorem reply_timeless (onward : Onward) : onward.timeless.reply = onward.reply := by
  cases onward <;> rfl

theorem stages_timeless (onward : Onward) :
    onward.timeless.stages = onward.stages.map Stage.timeless := by
  cases onward <;> rfl

end Onward

/-- Without a clock a call goes on alike whatever its time. -/
theorem Stage.go_timeless {r : Renderer} (clockless : r.clockTime = none) (stage : Stage)
    (schedule : Schedule) :
    stage.timeless.go r.timeless schedule = (stage.go r schedule).map Onward.timeless
      Renderer.timeless := by
  cases stage with
  | feed left =>
    simp only [timeless, go, Renderer.feedPass_timeless clockless, Onward.ofPass_timeless, Prod.map]
  | wake left =>
    simp only [timeless, go, show r.timeless.feedWake = r.feedWake from rfl]
    cases r.feedWake with
    | some result => rcases result with e | _ <;> rfl
    | none =>
      simp only [Renderer.feedPass_timeless clockless, Onward.ofPass_timeless, Prod.map]
  | drain =>
    simp only [timeless, go, Renderer.drainPass_timeless, Prod.map, Onward.ofDrain_timeless]
  | finish drained =>
    simp only [timeless, go, Renderer.finishEnd_timeless, Prod.map, Onward.ofFinish_timeless, id]

/-! ### Rows of deeds -/

/-- Whether a deed hands over a sample or lets a call go on. -/
def Deed.readsClock : Deed → Bool
  | receive _ | go _ _ => true
  | operate _ _ | endOfStream => false

theorem Deed.readsClock_timeless (deed : Deed) : deed.timeless.readsClock = deed.readsClock := by
  cases deed <;> rfl

namespace Traffic

def timeless (s : Traffic) : Traffic := ⟨s.renderer.timeless, s.calls.map Stage.timeless⟩

/-- To erase the times commutes with a deed, unless there is a clock where it reads one. -/
theorem perform_timeless (deed : Deed) (s : Traffic)
    (clockless : deed.readsClock = true → s.renderer.clockTime = none) :
    s.timeless.perform deed.timeless = (s.perform deed).map id timeless := by
  cases deed with
  | operate op outside =>
    simp only [perform, Deed.timeless, timeless, op.reply_timeless, op.apply_timeless outside]
    rfl
  | endOfStream =>
    simp only [perform, Deed.timeless, timeless, Prod.map, List.map_append]
    rfl
  | receive sample =>
    have screened := Renderer.screen_timeless (clockless rfl) sample
    simp only [perform, Deed.timeless, timeless, screened, Onward.ofScreen_timeless,
      Onward.reply_timeless, Onward.stages_timeless, Prod.map, List.map_append, id]
  | go i schedule =>
    simp only [perform, Deed.timeless, timeless, List.getElem?_map]
    cases s.calls[i]? with
    | none => rfl
    | some stage =>
      simp only [Option.map_some, Stage.go_timeless (clockless rfl), Onward.reply_timeless,
        Onward.stages_timeless, timeless, Prod.map, List.map_append, List.map_take, List.map_drop,
        id]

/-- The replies to the deeds, each with what it leaves, but for the times. -/
def trace : List Deed → Traffic → List (Reply × Traffic)
  | [], _ => []
  | deed :: deeds, s =>
    ((s.perform deed).1, (s.perform deed).2.timeless) :: trace deeds (s.perform deed).2

/-- There is no clock whenever one of the deeds would read it. It was never linked, or nobody holds
it any more. -/
def Clockless : List Deed → Traffic → Prop
  | [], _ => True
  | deed :: deeds, s =>
    (deed.readsClock = true → s.renderer.clockTime = none) ∧ Clockless deeds (s.perform deed).2

/-- Without a clock, two rows of deeds that are the same but for the times of samples and the
origins of starts have the same replies, and at every moment they leave the same, but for the times
that nothing depends on. -/
theorem trace_eq_of_clockless {s s' : Traffic} {deeds deeds' : List Deed}
    (same : s'.timeless = s.timeless)
    (alike : deeds'.map Deed.timeless = deeds.map Deed.timeless) (clockless : Clockless deeds s) :
    trace deeds' s' = trace deeds s := by
  -- Without the times the first deeds are the same, and so is what they leave.
  induction deeds generalizing s s' deeds' with
  | nil =>
    rw [List.map_nil, List.map_eq_nil_iff] at alike
    rw [alike]
    rfl
  | cons deed deeds ih =>
    cases deeds' with
    | nil => cases alike
    | cons deed' deeds' =>
      obtain ⟨first, later⟩ := List.cons.inj alike
      obtain ⟨clockless, clockless_later⟩ := clockless
      have clockless' : deed'.readsClock = true → s'.renderer.clockTime = none := by
        intro reads
        rw [← deed'.readsClock_timeless, first, deed.readsClock_timeless] at reads
        have agree : s'.renderer.timeless.clockTime = s.renderer.timeless.clockTime :=
          congrArg (·.renderer.clockTime) same
        exact agree.trans (clockless reads)
      have performed : (s'.perform deed').map id timeless = (s.perform deed).map id timeless := by
        rw [← perform_timeless deed' s' clockless', ← perform_timeless deed s clockless, first,
          same]
      obtain ⟨reply, left⟩ : (s'.perform deed').1 = (s.perform deed).1
          ∧ (s'.perform deed').2.timeless = (s.perform deed).2.timeless :=
        Prod.ext_iff.1 performed
      simp only [trace]
      rw [reply, left, ih left later clockless_later]

/-- A call hands over two bytes with these times, on a stream with this origin. The clock that the
renderer was linked to is let go before that. -/
def twoBytesAt (origin : Ticks) (start stop : Option Ticks) : List Deed :=
  [.operate (.connect (.pcm 1000 1 8)) rfl, .operate (.setManualClock 500) rfl,
    .operate (.start origin) rfl, .operate .dropClock rfl,
    .receive { data := [1, 2], start, stop }, .go 0 [[.setCursor 0 3]], .go 0 [[]]]

/-- The two bytes are written behind the hardware's position, whatever their times. -/
theorem trace_of_two_bytes :
    trace (twoBytesAt 200 (some (-70)) (some 90)) ⟨Renderer.unconnected, []⟩
        = trace (twoBytesAt 0 none none) ⟨Renderer.unconnected, []⟩
      ∧ (performAll (twoBytesAt 0 none none) ⟨Renderer.unconnected, []⟩).renderer.tracker.map
          (·.ring.buffer.bytes)
        = some [0x80, 0x80, 0x80, 1, 2, 0x80, 0x80, 0x80, 0x80, 0x80] := by
  refine ⟨trace_eq_of_clockless rfl rfl ?_, by decide⟩
  exact ⟨nofun, nofun, nofun, nofun, fun _ => rfl, fun _ => rfl, fun _ => rfl, trivial⟩

end Traffic

end Playout
