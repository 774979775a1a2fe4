import Playout.Proofs.Session.Reckoning

/-!
# When a stream is complete

A call that announces the end of a running stream looks at the hardware turn by turn. It reports
that the stream is complete, and silences the ring, at the first look that finds all queued bytes
*taken* (`Ledger.AllTaken`); until then it waits (`Course.Run.drainTurn_eq`).

Bytes that were queued before the write position was unset, by a pause say, are not waited for at
all: the ring is silenced over them, though the hardware has neither played nor taken one
(`Course.erases_unheard_bytes`). Of the others it is asked by design that they are taken, not that
they are heard, so what lies between the cursors is still to be played then.
-/

namespace Playout

/-- The hardware has taken everything that was queued since the write position was last unset. -/
def Ledger.AllTaken (l : Ledger) : Prop := ∀ stop ∈ l.queued, stop ≤ l.taken

instance (l : Ledger) : Decidable l.AllTaken :=
  inferInstanceAs (Decidable (∀ stop ∈ l.queued, stop ≤ l.taken))

/-- To a draining stream the next byte follows the hardware once everything queued is taken. -/
theorem Ledger.Agrees.drained_iff {l : Ledger} {m : Marks} {cursor : Cursor}
    (agrees : l.Agrees m) (reads : l.Reads m.size cursor) :
    (PositionTracker.resync true m.lastPlay m.writePos cursor.write m.size).1 = cursor.write
      ↔ l.AllTaken := by
  rw [agrees.resync_eq reads true, Ledger.AllTaken]
  cases queued : l.queued with
  | none => simp
  | some stop =>
    have lap := agrees.stop_lt reads queued
    rcases Nat.lt_or_ge l.taken stop with behind | reached
    · have apart := mod_ne_of_lt behind lap
      simp [reads.cursor_eq, Nat.not_le.2 behind, Nat.not_lt.2 (Nat.le_of_lt behind), apart]
    · simp [reached]

namespace Renderer

variable {r : Renderer} {c : Connection}

/-! ### What reaches the listener -/

theorem inbox_disturb (r : Renderer) (act : Disturbance) : (r.disturb act).inbox = r.inbox := by
  rcases r with ⟨_, _, _, _ | c⟩ <;> cases act <;> rfl

theorem inbox_disturbAll (r : Renderer) (acts : List Disturbance) :
    (r.disturbAll acts).inbox = r.inbox := by
  induction acts generalizing r with
  | nil => rfl
  | cons act acts ih => exact (ih _).trans (r.inbox_disturb act)

theorem inbox_atReading (r : Renderer) (acts : List Disturbance) :
    (r.atReading acts).inbox = r.inbox := by
  unfold atReading
  split
  · rfl
  · exact r.inbox_disturbAll acts

/-! ### Looking and finishing -/

/-- A look at a draining ring that is answered. -/
theorem drainPass_of_ok (running : r.state = .running) (unflushed : r.flushing = false)
    {acts : List Disturbance} (connected : (r.atReading acts).connection = some c)
    {positions : Positions} {t : PositionTracker}
    (looked : c.tracker.updateDraining = (.ok positions, t)) (rest : Schedule) :
    r.drainPass (acts :: rest)
      = (if positions.sequential = positions.minimum then .drained else .wait,
        ((r.atReading acts).setTracker t).recordPositions positions, rest) := by
  obtain ⟨c₀, connected₀, -⟩ := (r.persists_atReading acts).connection c connected
  unfold drainPass
  rw [if_neg (by simp [running, unflushed, Renderer.connected, connected₀]),
    look_of_ok connected looked]

/-- On a sound ring the end of the stream silences it, and reports it if the stream was drained. -/
theorem finishEnd_of_connection (connected : r.connection = some c)
    (sound : c.tracker.view.Sound) (drained : Bool) :
    ∃ r', r.finishEnd drained = (.ok (), r')
      ∧ r'.inbox = (if drained then r.inbox.map (· ++ [.complete]) else r.inbox)
      ∧ r'.ringView = some c.tracker.view.clear := by
  have view : r.ringView = some c.tracker.view :=
    congrArg (Option.map _) (tracker_of_connection connected)
  have silent := ringView_finishEnd sound view drained
  have clears := RingBuffer.clear_eq sound.length_eq sound.pos sound.granting
  rcases finished : r.finishEnd drained with ⟨answer, r'⟩
  rw [finished] at silent
  cases Finished.of_finishEnd finished with
  | disconnected disconnected => cases connected.symm.trans disconnected
  | refused c' connected' refused =>
    obtain rfl := Option.some.inj (connected.symm.trans connected')
    cases clears.symm.trans refused
  | cleared => exact ⟨_, rfl, by cases drained <;> rfl, silent⟩

theorem finishEnd_of_sound (connected : r.connection = some c) (sound : c.tracker.view.Sound) :
    ∃ r', r.finishEnd true = (.ok (), r') ∧ r'.inbox = r.inbox.map (· ++ [.complete])
      ∧ r'.ringView = some c.tracker.view.clear :=
  finishEnd_of_connection connected sound true

end Renderer

namespace Course

variable {s : Course}

/-- Along every course, a turn of a call that drains a running stream, whenever the hardware
answers: if the hardware has taken everything that is queued, the call returns, the listener is
told that the stream is complete, and the whole ring is silenced; otherwise the call waits. -/
theorem Run.drainTurn_eq (run : s.Run) (running : s.renderer.state = .running)
    (unflushed : s.renderer.flushing = false) {acts : List Disturbance}
    (harmless : acts.all Disturbance.harmless = true) {t : PositionTracker}
    (tracked : (s.renderer.atReading acts).tracker = some t) {cursor : Cursor}
    (answered : t.answer = some cursor) (reads : s.ledger.Reads t.size cursor) (rest : Schedule) :
    ∃ r', s.renderer.drainTurn (acts :: rest)
        = (if s.ledger.AllTaken then .returned (.ok .ended) else .waiting .endOfStream, r', rest)
      ∧ r'.inbox = (if s.ledger.AllTaken then s.renderer.inbox.map (· ++ [.complete])
        else s.renderer.inbox)
      ∧ r'.ringView = some (if s.ledger.AllTaken then (t.view.look cursor.play).clear
        else t.view.look cursor.play) := by
  obtain ⟨c, connected, rfl⟩ := Option.map_eq_some_iff.1 tracked
  obtain ⟨sound, agrees⟩ := run.sound_atReading harmless connected
  have looked := PositionTracker.refresh_of_answer true sound answered
  have passed := Renderer.drainPass_of_ok running unflushed connected looked rest
  have drained : (c.tracker.found true cursor).sequential = (c.tracker.found true cursor).minimum
      ↔ s.ledger.AllTaken := agrees.drained_iff reads
  have inbox := s.renderer.inbox_atReading acts
  -- The renderer once it has looked.
  generalize after : ((s.renderer.atReading acts).setTracker (c.tracker.looked true cursor)
    ).recordPositions (c.tracker.found true cursor) = r at passed
  have connected' : r.connection
      = some { c with tracker := c.tracker.looked true cursor } := by
    rw [← after, Renderer.recordPositions, Renderer.setTracker, connected]
    rfl
  have inbox' : r.inbox = s.renderer.inbox := by
    rw [← after, Renderer.recordPositions, Renderer.setTracker]
    exact inbox
  have view' : r.ringView = some (c.tracker.view.look cursor.play) :=
    congrArg (Option.map _) (Renderer.tracker_of_connection connected')
  unfold Renderer.drainTurn
  rw [passed]
  by_cases all : s.ledger.AllTaken
  · obtain ⟨r', finished, told, silenced⟩ :=
      Renderer.finishEnd_of_sound connected' (sound.look cursor.play)
    rw [if_pos (drained.2 all)]
    simp only [all, if_true]
    rw [finished]
    exact ⟨r', rfl, told.trans (by rw [inbox']), silenced⟩
  · rw [if_neg fun follows => all (drained.1 follows)]
    simp only [all, if_false]
    exact ⟨r, rfl, inbox', view'⟩

/-- Once the hardware has taken the three bytes, and all are heard, the stream is complete. -/
theorem drainTurn_of_heard :
    ∃ s r', Run s ∧ s.ledger = ⟨6, 7, some 0, some 6⟩
      ∧ s.renderer.drainTurn [[.setCursor 6 7]] = (.returned (.ok .ended), r', [])
      ∧ r'.inbox = some [.complete] := by
  have heard := run_queuedThree.move (show _ ≤ 6 from Nat.zero_le _) (show _ ≤ 7 by decide)
  have harmless : [Disturbance.setCursor 6 7].all Disturbance.harmless = true := rfl
  obtain ⟨r', turn, told, -⟩ := heard.drainTurn_eq rfl rfl harmless rfl rfl
    ⟨rfl, by decide, by decide, by rintro _ ⟨⟩; decide⟩ []
  exact ⟨_, r', heard, rfl, turn, told⟩

/-- Three bytes are queued from where the hardware is, and the stream is paused and started again.
It is reported complete at once, and the bytes are erased, none of them played or taken. Without
the pause the report is as it is meant to be: it comes when the bytes are taken, though two of them
are not heard yet and are erased. -/
theorem erases_unheard_bytes :
    (∃ s r', Run s ∧ s.renderer.state = .running ∧ s.ledger = ⟨0, 3, some 0, none⟩
        ∧ s.renderer.tracker.map (·.ring.buffer.bytes)
          = some [0x80, 0x80, 0x80, 1, 2, 3, 0x80, 0x80, 0x80, 0x80]
        ∧ s.renderer.endOfStream [[]] = (.returned (.ok .ended), r', [])
        ∧ r'.inbox = some [.complete]
        ∧ r'.tracker.map (·.ring.buffer.bytes) = some (List.replicate 10 0x80))
      ∧ ∃ s r', Run s ∧ s.renderer.state = .running ∧ s.ledger = ⟨4, 6, some 0, some 6⟩
        ∧ s.renderer.tracker.map (·.ring.buffer.bytes)
          = some [0x80, 0x80, 0x80, 1, 2, 3, 0x80, 0x80, 0x80, 0x80]
        ∧ s.renderer.endOfStream [[.setCursor 4 6]] = (.returned (.ok .ended), r', [])
        ∧ r'.inbox = some [.complete]
        ∧ r'.tracker.map (·.ring.buffer.bytes) = some (List.replicate 10 0x80) := by
  have taken := run_queuedThree.move (show _ ≤ 4 from Nat.zero_le _) (show _ ≤ 6 by decide)
  have paused : Run (Course.operate _ .pause) := run_queuedThree.operate rfl nofun
  have resumed : Run (Course.operate _ (.start 0)) := paused.operate rfl nofun
  exact ⟨⟨_, _, resumed, rfl, rfl, rfl, rfl, rfl, rfl⟩, _, _, taken, rfl, rfl, rfl, rfl, rfl, rfl⟩

end Course

end Playout
