import StyleTypings.Proofs.Writer.Interleaving

namespace StyleTypings.World

open Text (encode)

variable {α β : Type} (w : World)

theorem run_bind (x : App α) (f : α → App β) :
    (x >>= f).run w = (f (x.run w).1).run (x.run w).2 := rfl

theorem run_pure (x : α) : (pure x : App α).run w = (x, w) := rfl

theorem run_get : (get : App World).run w = (w, w) := rfl

theorem run_modify (f : World → World) : (modify f : App Unit).run w = ((), f w) := rfl

theorem run_say (e : Log.Event) :
    (say e).run w = ((), { w with log := w.log ++ [(.main, e)] }) := rfl

theorem run_note (c : Call) :
    (note c).run w = ((), { w with calls := w.calls ++ [c] }) := rfl

theorem run_report (thread : Thread) (f : WriteFailure) :
    (report thread f).run w =
      if w.reportPanics then (false, { w with reportPanics := false })
      else (true, { w with
        failures := w.failures ++ [f]
        log := w.log ++ [(thread, .writeFailed f.target f.fault.message)] }) := by
  obtain ⟨_, _, _, _, _, _, _, _, _, reportPanics, _⟩ := w
  cases reportPanics <;> rfl

theorem frame_print (text : String) :
    ((print text).run w).2.disk = w.disk ∧ ((print text).run w).2.writer = w.writer := by
  obtain ⟨_, _, _, outputFull, _, _, _, _, _, _, _⟩ := w
  cases outputFull <;> exact ⟨rfl, rfl⟩

theorem calls_print (text : String) : ((print text).run w).2.calls = w.calls := by
  obtain ⟨_, _, _, outputFull, _, _, _, _, _, _, _⟩ := w
  cases outputFull <;> rfl

theorem outputFull_of_print {text : String} {fault : Disk.Fault} {w w' : World}
    (h : (print text).run w = (.error fault, w')) : w'.outputFull = true := by
  obtain ⟨_, _, _, outputFull, _, _, _, _, _, _, _⟩ := w
  cases outputFull with
  | true => exact (Prod.mk.inj h).2 ▸ rfl
  | false => cases (Prod.mk.inj h).1

theorem frame_printRequest (r : WriteRequest) :
    ((printRequest r).run w).2.disk = w.disk ∧ ((printRequest r).run w).2.writer = w.writer ∧
      ((printRequest r).run w).2.calls = w.calls := by
  obtain ⟨_, _, _, outputFull, _, _, _, _, _, reportPanics, _⟩ := w
  cases outputFull <;> cases reportPanics <;> exact ⟨rfl, rfl, rfl⟩

def attempt (r : WriteRequest) (writer : Writer) : World :=
  match w.disk.write (encode r.target) (encode r.contents) with
  | .ok disk => { w with writer, disk, log := w.log ++ [(.writer, .wrote r.target)] }
  | .error fault =>
    if w.reportPanics then { w with writer := writer.die, reportPanics := false }
    else { w with
      writer
      failures := w.failures ++ [⟨r.target, fault⟩]
      log := w.log ++ [(.writer, .writeFailed r.target fault.message)] }

theorem run_work_of_none (h : w.writer.next? = none) : work.run w = ((), w) := by
  simp only [work, run_bind, run_get, h]
  rfl

theorem run_work_of_some {r : WriteRequest} {writer : Writer}
    (h : w.writer.next? = some (r, writer)) : work.run w = ((), w.attempt r writer) := by
  simp only [work, run_bind, run_get, run_modify, h, attempt]
  cases w.disk.write (encode r.target) (encode r.contents) with
  | ok disk => rfl
  | error fault =>
    simp only [run_bind, run_report]
    cases w.reportPanics <;> rfl

theorem run_workFor_zero : (workFor 0).run w = ((), w) := rfl

theorem run_workFor_succ (n : Nat) : (workFor (n + 1)).run w = (workFor n).run (work.run w).2 := rfl

theorem run_workFor_of_none (h : w.writer.next? = none) (n : Nat) :
    (workFor n).run w = ((), w) := by
  induction n with
  | zero => rfl
  | succ n ih => rw [run_workFor_succ, run_work_of_none w h, ih]

theorem taking_attempt (r : WriteRequest) (writer : Writer) :
    (w.attempt r writer).writer.taking = writer.taking := by
  unfold attempt
  split
  · rfl
  · split <;> rfl

theorem length_queue_attempt (r : WriteRequest) (writer : Writer) :
    (w.attempt r writer).writer.queue.length ≤ writer.queue.length := by
  unfold attempt
  split
  · exact Nat.le_refl _
  · split
    · exact Nat.zero_le _
    · exact Nat.le_refl _

theorem next?_workFor {n : Nat} (h : w.writer.queue.length ≤ n) :
    ((workFor n).run w).2.writer.next? = none := by
  induction n generalizing w with
  | zero =>
    have hq : w.writer.queue = [] := List.length_eq_zero_iff.1 (by omega)
    simp [run_workFor_zero, Writer.next?, hq]
  | succ n ih =>
    cases hn : w.writer.next? with
    | none => rw [run_workFor_of_none w hn, hn]
    | some next =>
      obtain ⟨r, writer⟩ := next
      rw [run_workFor_succ, run_work_of_some w hn]
      refine ih _ (Nat.le_trans (length_queue_attempt w r writer) ?_)
      have hq := (Writer.next?_eq_some_iff.1 hn).2.1
      rw [hq, List.length_cons] at h
      omega

theorem run_drain : drain.run w = (workFor w.writer.queue.length).run w := rfl

theorem run_pause : pause.run w =
    match w.schedule with
    | [] => drain.run w
    | n :: later => (workFor n).run { w with schedule := later } := by
  simp only [pause, run_bind, run_get]
  cases w.schedule <;> rfl

section Invariant

variable {w} {I : World → Prop} (hwork : ∀ w, I w → I (work.run w).2)
include hwork

/-- What no step of the writer breaks is not broken by several of them. -/
theorem workFor_invariant (h : I w) (n : Nat) : I ((workFor n).run w).2 := by
  induction n generalizing w with
  | zero => exact h
  | succ n ih => exact ih (hwork w h)

theorem pause_invariant (hschedule : ∀ w schedule, I w → I { w with schedule }) (h : I w) :
    I (pause.run w).2 := by
  rw [run_pause]
  split
  · exact workFor_invariant hwork h _
  next n later _ => exact workFor_invariant hwork (hschedule w later h) n

end Invariant

theorem taking_work : (work.run w).2.writer.taking = w.writer.taking := by
  cases hn : w.writer.next? with
  | none => rw [run_work_of_none w hn]
  | some next =>
    obtain ⟨r, writer⟩ := next
    rw [run_work_of_some w hn, taking_attempt, (Writer.next?_eq_some_iff.1 hn).2.2]

theorem taking_workFor (n : Nat) : ((workFor n).run w).2.writer.taking = w.writer.taking :=
  workFor_invariant (I := (·.writer.taking = w.writer.taking))
    (fun w' h ↦ (taking_work w').trans h) rfl n

theorem taking_pause : (pause.run w).2.writer.taking = w.writer.taking :=
  pause_invariant (I := (·.writer.taking = w.writer.taking))
    (fun w' h ↦ (taking_work w').trans h) (fun _ _ h ↦ h) rfl

theorem run_submit_of_some {r : WriteRequest} {writer : Writer}
    (h : w.writer.submit? r = some writer) : (submit r).run w = pause.run { w with writer } := by
  simp only [submit, run_bind, run_get, h]
  rfl

theorem run_submit_of_none {r : WriteRequest} (h : w.writer.submit? r = none) :
    (submit r).run w = ((), ((report .main ⟨r.target, Writer.rejection⟩).run w).2) := by
  simp only [submit, run_bind, run_get, h]
  rfl

theorem run_submit_of_idle {r : WriteRequest} {disk : Disk} (hs : w.schedule = [])
    (hw : w.writer = {}) (h : w.disk.write (encode r.target) (encode r.contents) = .ok disk) :
    (submit r).run w = ((), { w with disk, log := w.log ++ [(.writer, .wrote r.target)] }) := by
  obtain ⟨_, _, _, _, _, _, _, _, _, _, _⟩ := w
  cases hs
  cases hw
  rw [run_submit_of_some _ rfl, run_pause]
  dsimp only
  rw [run_drain]
  dsimp only [List.nil_append, List.length_singleton]
  rw [run_workFor_succ, run_work_of_some _ rfl, run_workFor_zero, attempt, h]

/-- Finishing the writer lets it attempt all that waits, and raises an event at most. -/
theorem exists_run_finish (h : w.writer.taking = true) :
    ∃ log, (finish.run w).2 = { (drain.run { w with writer := w.writer.close }).2 with log } := by
  simp only [finish, run_bind, run_get, run_modify, h, if_true]
  generalize (drain.run _).2 = after
  obtain ⟨_, _, _, _, _, log, _, ⟨_, alive, _⟩, _, _, _⟩ := after
  cases alive with
  | true => exact ⟨log, rfl⟩
  | false => exact ⟨log ++ [(.main, .writerPanicked)], rfl⟩

end StyleTypings.World
