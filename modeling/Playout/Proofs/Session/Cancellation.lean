import Playout.Proofs.Session.Completion
import Playout.Proofs.Session.Settling

/-!
# When the end of a stream is called off

A call has announced the end of a stream and waits. Meanwhile a flush may open the stream again, or
the stream may be stopped, and perhaps be started anew. The call is not told: all that it has to go
by is what it finds when it holds the renderer again.

An interruption that lasts until then ends it without a report. One that is over has no effect but
that what was queued before is forgotten (`Course.Run.queued_cancel`). So the call finds a running
stream complete at once if nothing was written since, and otherwise as soon as the hardware has
taken what was. Unless a look fails, it ends by silencing the ring, and with it all that was
accepted since (`Course.Run.endOfStream_after_cancel`).

## Design points

* **A call holds the renderer three times or more:** for the mark, for each look, and to silence the
  ring. Between any two of them, `Meanwhile`, the others and the hardware go on.
* **What is written meanwhile is kept in the account** and not read off the ring, where later bytes
  may lie over it.
-/

namespace Playout

namespace Renderer

variable {r : Renderer}

theorem writePos_endFlush (r : Renderer) :
    ∀ c ∈ r.endFlush.2.connection, c.tracker.writePos = none := by
  intro c after
  cases connected : r.connection with
  | none =>
    rw [endFlush_of_none connected] at after
    cases connected.symm.trans after
  | some c₀ =>
    rw [endFlush_of_connection connected] at after
    obtain ⟨_, -, rfl⟩ := Option.map_eq_some_iff.1 after
    rfl

end Renderer

namespace Course

variable {s s' : Course} {op : Operation} {written : List (Nat × List UInt8)}

/-! ### What happens while a call does not hold the renderer -/

/-- The others operate and the hardware goes on; `written` is what they write to the ring, and
where. -/
inductive Meanwhile (s : Course) : List (Nat × List UInt8) → Course → Prop
  | nothing : Meanwhile s [] s
  | move {s' : Course} {written : List (Nat × List UInt8)} {played taken : Nat}
      (before : Meanwhile s written s') (forward : s'.ledger.played ≤ played)
      (onward : s'.ledger.taken ≤ taken) :
      Meanwhile s written { s' with ledger := { s'.ledger with played, taken } }
  | operate {s' : Course} {written : List (Nat × List UInt8)} {op : Operation}
      (before : Meanwhile s written s') (harmless : op.harmless = true)
      (found : ∀ cursor ∈ op.reading s'.renderer, ∀ t ∈ s'.renderer.tracker,
        s'.ledger.Reads t.size cursor) :
      Meanwhile s (written ++ (op.commitment s'.renderer).toList) (s'.operate op)

theorem Meanwhile.run (meanwhile : Meanwhile s written s') (run : s.Run) : s'.Run := by
  induction meanwhile with
  | nothing => exact run
  | move before forward onward ih => exact ih.move forward onward
  | operate before harmless found ih => exact ih.operate harmless found

/-- Only what an operation writes is queued by it. -/
theorem queued_operate (s : Course) (op : Operation) :
    (s.operate op).ledger.queued = none ∨ (s.operate op).ledger.queued = s.ledger.queued
      ∨ ∃ put ∈ op.commitment s.renderer, put.2 ≠ [] := by
  have kept (l : Ledger) (writePos : Option Nat) :
      (l.keep writePos).queued = none ∨ (l.keep writePos).queued = l.queued := by
    cases writePos with
    | none => exact .inl rfl
    | some => exact .inr rfl
  unfold operate
  dsimp only
  split
  · exact .inl rfl
  match op.commitment s.renderer with
  | none => exact (kept _ _).imp_right .inl
  | some (offset, data) =>
    by_cases empty : data = []
    · subst empty
      exact (kept _ _).imp_right .inl
    · exact .inr (.inr ⟨_, rfl, empty⟩)

/-- Where nothing was queued, something is only if it was written meanwhile. -/
theorem Meanwhile.queued (meanwhile : Meanwhile s written s') (fresh : s.ledger.queued = none) :
    s'.ledger.queued = none ∨ ∃ put ∈ written, put.2 ≠ [] := by
  induction meanwhile with
  | nothing => exact .inl fresh
  | move before forward onward ih => exact ih
  | @operate s' written op before harmless found ih =>
    rcases s'.queued_operate op with unset | same | ⟨put, commits, more⟩
    · exact .inl unset
    · rcases ih with unset | ⟨put, there, more⟩
      · exact .inl (same.trans unset)
      · exact .inr ⟨put, List.mem_append_left _ there, more⟩
    · exact .inr ⟨put, List.mem_append_right _ (Option.mem_toList.2 commits), more⟩

/-! ### What the cancellation leaves -/

theorem Run.orderly (run : s.Run) : s.renderer.Orderly := by
  induction run with
  | create created => exact Renderer.orderly_of_create created
  | move run forward onward orderly => exact orderly
  | operate run harmless found orderly => exact orderly.apply _

theorem queued_of_unset (uncommitted : op.commitment s.renderer = none)
    (unset : ∀ c ∈ (op.apply s.renderer).connection, c.tracker.writePos = none) :
    (s.operate op).ledger.queued = none := by
  have forgotten : (op.apply s.renderer).tracker.bind (·.writePos) = none := by
    refine Option.bind_eq_none_iff.2 fun t tracked => ?_
    obtain ⟨c, connected, rfl⟩ := Option.map_eq_some_iff.1 tracked
    exact unset c connected
  unfold operate
  rw [forgotten, uncommitted]
  dsimp only
  split <;> rfl

/-- After a flush or a stop nothing is queued. -/
theorem Run.queued_cancel (run : s.Run) (cancels : op = .endFlush ∨ op = .stop) :
    (s.operate op).ledger.queued = none := by
  rcases cancels with rfl | rfl
  · exact queued_of_unset rfl s.renderer.writePos_endFlush
  · exact queued_of_unset rfl run.orderly.unset_stop

/-! ### What the call makes of it -/

/-- Should the call look after these acts of the outside, then the hardware answers and is where the
ledger says. -/
structure Answers (s : Course) (acts : List Disturbance) : Prop where
  harmless : acts.all Disturbance.harmless = true
  answers : ∀ t ∈ (s.renderer.atReading acts).tracker,
    ∃ cursor, t.answer = some cursor ∧ s.ledger.Reads t.size cursor

/-- How a look of the call ends: an interruption that is not over interrupts it; otherwise it is
drained once the hardware has taken everything queued since the write position was last unset. -/
def verdict (s : Course) : DrainEnd :=
  if s.renderer.state ≠ .running ∨ s.renderer.flushing = true ∨ s.renderer.connected = false then
    .interrupted
  else if s.ledger.AllTaken then .drained
  else .wait

theorem Run.drainPass_eq_verdict (run : s.Run) {acts : List Disturbance} (answers : s.Answers acts)
    (rest : Schedule) :
    (s.renderer.drainPass (acts :: rest)).1 = s.verdict := by
  unfold verdict
  by_cases idle : s.renderer.state ≠ .running ∨ s.renderer.flushing = true
      ∨ s.renderer.connected = false
  · rw [if_pos idle, Renderer.drainPass, if_pos (by simpa using idle)]
  rw [if_neg idle]
  simp only [ne_eq, not_or, Decidable.not_not, Bool.not_eq_true, Bool.not_eq_false] at idle
  obtain ⟨running, unflushed, there⟩ := idle
  obtain ⟨c₀, connected₀⟩ := Option.isSome_iff_exists.1 there
  obtain ⟨b, connected⟩ := Renderer.connection_atReading connected₀ acts
  obtain ⟨sound, agrees⟩ := run.sound_atReading answers.harmless connected
  obtain ⟨cursor, answered, reads⟩ :=
    answers.answers _ (Renderer.tracker_of_connection connected)
  have looked := PositionTracker.refresh_of_answer true sound answered
  rw [Renderer.drainPass_of_ok running unflushed connected looked rest]
  exact ite_congr (propext (agrees.drained_iff reads)) (fun _ => rfl) fun _ => rfl

/-- At any time the call can silence the ring, if there still is one, and report what it found. -/
theorem Run.finishEnd_eq (run : s.Run) (drained : Bool) :
    ∃ r', s.renderer.finishEnd drained = (.ok (), r')
      ∧ r'.inbox = (if drained then s.renderer.inbox.map (· ++ [.complete]) else s.renderer.inbox)
      ∧ r'.ringView = s.renderer.ringView.map RingView.clear := by
  cases connected : s.renderer.connection with
  | none =>
    have silent := (Renderer.keeps_finishEnd_of_none connected drained).ringView_eq
    rcases finished : s.renderer.finishEnd drained with ⟨answer, r'⟩
    rw [finished] at silent
    cases Renderer.Finished.of_finishEnd finished with
    | disconnected =>
      refine ⟨_, rfl, by cases drained <;> rfl, silent.trans ?_⟩
      rw [Renderer.ringView, Renderer.tracker, connected]
      rfl
    | refused c connected' | cleared c connected' => cases connected.symm.trans connected'
  | some c =>
    rw [Renderer.ringView, Renderer.tracker_of_connection connected]
    exact Renderer.finishEnd_of_connection connected (run.sound.ring c connected).1 drained

/-- A call that has announced the end of the stream waits when a flush is ended or the stream is
stopped, and `written` is what is written since. Its next look ends as `verdict` says; nothing but
what was written can make it wait. And whenever it then comes to silence the ring, the listener is
told that the stream is complete if and only if that look found it drained, and not a byte of the
ring is kept, be it written before that look or `later`. -/
theorem Run.endOfStream_after_cancel (run : s.Run) {cancel : Operation}
    (cancels : cancel = .endFlush ∨ cancel = .stop)
    (meanwhile : Meanwhile (s.operate cancel) written s') :
    (∀ acts rest, s'.Answers acts → (s'.renderer.drainPass (acts :: rest)).1 = s'.verdict)
      ∧ (s'.verdict = .wait → ∃ put ∈ written, put.2 ≠ [])
      ∧ ∀ drained later s'', Meanwhile s' later s'' →
        ∃ r', s''.renderer.finishEnd drained = (.ok (), r')
          ∧ r'.inbox = (if drained then s''.renderer.inbox.map (· ++ [.complete])
            else s''.renderer.inbox)
          ∧ r'.ringView = s''.renderer.ringView.map RingView.clear := by
  have harmless : cancel.harmless = true := by
    rcases cancels with rfl | rfl <;> rfl
  have found : ∀ cursor ∈ cancel.reading s.renderer, ∀ t ∈ s.renderer.tracker,
      s.ledger.Reads t.size cursor := by
    intro cursor read
    rcases cancels with rfl | rfl <;> cases read
  have run' : s'.Run := meanwhile.run (run.operate harmless found)
  refine ⟨fun acts rest answers => run'.drainPass_eq_verdict answers rest, fun waits => ?_, ?_⟩
  · refine (meanwhile.queued (run.queued_cancel cancels)).resolve_left fun unqueued => ?_
    have all : s'.ledger.AllTaken := by
      intro stop queued
      cases unqueued.symm.trans queued
    unfold verdict at waits
    rw [if_pos all] at waits
    split at waits <;> cases waits
  · intro drained later s'' between
    exact (between.run run').finishEnd_eq drained

/-- A call has announced the end of the stream and waits for the three bytes, when a flush
begins. -/
def flushedAtEnd : Course :=
  ((queuedThree.operate .markEnd).operate (.drain [[]])).operate .beginFlush

theorem run_flushedAtEnd : flushedAtEnd.Run := by
  have marked : Run (Course.operate _ .markEnd) := run_queuedThree.operate rfl nofun
  have waiting : Run ((queuedThree.operate .markEnd).operate (.drain [[]])) := by
    refine marked.operate rfl ?_
    rintro _ ⟨⟩ _ ⟨⟩
    exact ⟨rfl, by decide, by decide, by rintro _ ⟨⟩; decide⟩
  exact waiting.operate rfl nofun

/-- The flush ends while the call waits, and two bytes are written. The call waits for these. -/
theorem drainPass_of_bytes_after_flush :
    ∃ s, Meanwhile (flushedAtEnd.operate .endFlush) [(3, [4, 5])] s
      ∧ (s.renderer.drainPass [[]]).1 = .wait := by
  have harmless : (Operation.feed ⟨[4, 5], none⟩ [[]]).harmless = true := rfl
  have written : Meanwhile (flushedAtEnd.operate .endFlush) [(3, [4, 5])]
      ((flushedAtEnd.operate .endFlush).operate (.feed ⟨[4, 5], none⟩ [[]])) := by
    refine Meanwhile.nothing.operate harmless ?_
    rintro _ ⟨⟩ _ ⟨⟩
    exact ⟨rfl, by decide, by decide, by rintro _ ⟨⟩; decide⟩
  obtain ⟨verdict, -, -⟩ := run_flushedAtEnd.endOfStream_after_cancel (.inl rfl) written
  refine ⟨_, written, (verdict [] [] ⟨rfl, ?_⟩).trans (by decide)⟩
  rintro _ ⟨⟩
  exact ⟨_, rfl, rfl, by decide, by decide, by rintro _ ⟨⟩; decide⟩

/-- A call waits for the hardware. Meanwhile the stream is flushed, or stopped and started again,
and then accepts two bytes. The call reports that the stream is complete, and erases the second of
these before it is heard. -/
theorem completes_after_cancellation :
    ∃ r, queuedThree.renderer.endOfStream [[]] = (.waiting .endOfStream, r, [])
      ∧ ∀ ops ∈ [[.beginFlush, .endFlush], [.stop, .start 0]], ∃ accepting,
        (Operation.applyAll ops r).receive { data := [4, 5] } [[]]
            = (.returned (.ok (.receipt .rendered)), accepting, [])
          ∧ accepting.inbox = some []
          ∧ accepting.tracker.map (fun t => (t.ring.buffer.bytes.drop 3).take 2) = some [4, 5]
          ∧ ∃ finished, accepting.resume .endOfStream [[.setCursor 4 5]]
              = (.returned (.ok .ended), finished, [])
            ∧ finished.inbox = some [.complete]
            ∧ finished.tracker.map (·.ring.buffer.bytes) = some (List.replicate 10 0x80) := by
  refine ⟨_, rfl, ?_⟩
  rintro ops (_ | ⟨_, _ | ⟨_, ⟨⟩⟩⟩)
  · refine ⟨_, (Renderer.feedTurn_of_proceed rfl).trans (Renderer.feedTurn_of_returned rfl), ?_⟩
    refine ⟨rfl, rfl, _, rfl, ?_⟩
    exact ⟨rfl, rfl⟩
  · refine ⟨_, (Renderer.feedTurn_of_proceed rfl).trans (Renderer.feedTurn_of_returned rfl), ?_⟩
    refine ⟨rfl, rfl, _, rfl, ?_⟩
    exact ⟨rfl, rfl⟩

end Course

end Playout
