import StyleTypings.Proofs.World.Generation

namespace StyleTypings.World

variable {t : Toolchain} {w w' : World}

def stdout (w : World) : String × Bool := (w.output, w.outputFull)

theorem stdout_work (w : World) : (work.run w).2.stdout = w.stdout := by
  cases hn : w.writer.next? with
  | none => rw [run_work_of_none w hn]
  | some next =>
    rw [run_work_of_some w hn]
    unfold attempt
    split
    · rfl
    · split <;> rfl

theorem stdout_pause (w : World) : (pause.run w).2.stdout = w.stdout :=
  pause_invariant (I := (·.stdout = w.stdout)) (fun w' h ↦ (stdout_work w').trans h)
    (fun _ _ h ↦ h) rfl

theorem stdout_submit (w : World) (r : WriteRequest) : ((submit r).run w).2.stdout = w.stdout := by
  cases hw : w.writer.submit? r with
  | some writer =>
    rw [run_submit_of_some w hw]
    exact stdout_pause { w with writer }
  | none =>
    rw [run_submit_of_none w hw, run_report]
    split <;> rfl

theorem calls_finish (w : World) : (finish.run w).2.calls = w.calls := by
  cases ht : w.writer.taking with
  | true =>
    obtain ⟨log, hlog⟩ := exists_run_finish w ht
    rw [hlog]
    exact calls_workFor { w with writer := w.writer.close } _
  | false =>
    simp only [finish, run_bind, run_get, ht]
    rfl

theorem Noted.stdout_eq (h : Noted w w') : w'.stdout = w.stdout := by
  obtain ⟨_, _, rfl⟩ := h.eq
  rfl

theorem stdout_print (w : World) (text : String) : ((print text).run w).2.stdout =
    (if w.outputFull then w.output else w.output ++ text, w.outputFull) := by
  obtain ⟨_, _, _, outputFull, _, _, _, _, _, _, _⟩ := w
  cases outputFull <;> rfl

theorem run_print_of_not_full (h : w.outputFull = false) (text : String) :
    (print text).run w = (.ok (), { w with output := w.output ++ text }) := by
  obtain ⟨_, _, _, _, _, _, _, _, _, _, _⟩ := w
  cases h
  rfl

theorem run_print_of_full (h : w.outputFull = true) (text : String) :
    (print text).run w = (.error .noSpace, w) := by
  obtain ⟨_, _, _, _, _, _, _, _, _, _, _⟩ := w
  cases h
  rfl

theorem stdout_report (w : World) (thread : Thread) (f : WriteFailure) :
    ((report thread f).run w).2.stdout = w.stdout := by
  rw [run_report]
  split <;> rfl

theorem stdout_printRequest (w : World) (r : WriteRequest) : ((printRequest r).run w).2.stdout =
    (if w.outputFull then w.output else w.output ++ printed r, w.outputFull) := by
  rw [← stdout_print w (printed r)]
  simp only [printRequest, run_bind]
  cases ((print (printed r)).run w).1 with
  | ok _ => rfl
  | error fault => exact stdout_report _ _ _

theorem outputFull_capability_submit (w : World) (r : WriteRequest) :
    ((t.capabilities.submit r).run w).2.outputFull = w.outputFull := by
  simp only [Toolchain.capabilities, run_bind, run_note]
  cases t.sink with
  | writer => exact congrArg Prod.snd (stdout_submit { w with calls := w.calls ++ [.submit r] } r)
  | output =>
    exact congrArg Prod.snd (stdout_printRequest { w with calls := w.calls ++ [.submit r] } r)
  | nowhere => rfl

theorem errors_work (w : World) : (work.run w).2.errors = w.errors := by
  cases hn : w.writer.next? with
  | none => rw [run_work_of_none w hn]
  | some next =>
    rw [run_work_of_some w hn]
    unfold attempt
    split
    · rfl
    · split <;> rfl

theorem errors_pause (w : World) : (pause.run w).2.errors = w.errors :=
  pause_invariant (I := (·.errors = w.errors)) (fun w' h ↦ (errors_work w').trans h)
    (fun _ _ h ↦ h) rfl

theorem errors_report (w : World) (thread : Thread) (f : WriteFailure) :
    ((report thread f).run w).2.errors = w.errors := by
  rw [run_report]
  split <;> rfl

theorem errors_print (w : World) (text : String) : ((print text).run w).2.errors = w.errors := by
  obtain ⟨_, _, _, outputFull, _, _, _, _, _, _, _⟩ := w
  cases outputFull <;> rfl

theorem errors_submit (w : World) (r : WriteRequest) : ((submit r).run w).2.errors = w.errors := by
  cases hw : w.writer.submit? r with
  | some writer =>
    rw [run_submit_of_some w hw]
    exact errors_pause { w with writer }
  | none =>
    rw [run_submit_of_none w hw]
    exact errors_report w _ _

theorem errors_capability_submit (w : World) (r : WriteRequest) :
    ((t.capabilities.submit r).run w).2.errors = w.errors := by
  simp only [Toolchain.capabilities, run_bind, run_note]
  cases t.sink with
  | writer => exact errors_submit _ r
  | output =>
    simp only [printRequest, run_bind]
    cases hprint : ((print (printed r)).run { w with calls := w.calls ++ [.submit r] }).1 with
    | ok _ => exact errors_print _ _
    | error fault => exact (errors_report _ _ _).trans (errors_print _ _)
  | nowhere => rfl

theorem Noted.errors_eq (h : Noted w w') : w'.errors = w.errors := by
  obtain ⟨_, _, rfl⟩ := h.eq
  rfl

end StyleTypings.World
