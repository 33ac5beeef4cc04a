import StyleTypings.Proofs.Walk.Still
import StyleTypings.Proofs.World.Calls

namespace StyleTypings.Walk

open Text (Bytes encode)
open World (Noted requests run_bind run_get)

/-- A task whose turn has come, and the disk that it finds. -/
structure Turn where
  task : Task
  disk : Disk

variable (t : Toolchain) (e : Exclusion)

def Task.calls (d : Disk) : Task → List Call
  | .enter _ => []
  | .visit _ .dir => []
  | .visit path _ =>
    match stylesheet? path with
    | none => []
    | some text =>
      match d.readText (encode text) with
      | .error _ => []
      | .ok content => t.callsFor d content text

def Turn.gain (turn : Turn) : Except Failure Gain := turn.task.gain t e turn.disk

def Turn.calls (turn : Turn) : List Call := turn.task.calls t turn.disk

def Task.look (task : Task) (w : World) : List Turn :=
  if task.pauses then [⟨task, (task.entered w).disk⟩] else []

def looks : (fuel : Nat) → Progress → World → List Turn
  | 0, _, _ => []
  | fuel + 1, p, w =>
    match p.tasks with
    | [] => []
    | task :: _ =>
      task.look w ++
        match (step t e p).run w with
        | (.error _, _) => []
        | (.ok p, w') => looks fuel p w'

def looksFrom (root : String) (w : World) : List Turn :=
  match start w.disk (encode root) with
  | .error _ => []
  | .ok tasks => looks t e (taskBound w.disk) ⟨tasks, {}⟩ w

variable {t e} {w w' : World}

theorem calls_of_not_pauses {task : Task} (h : task.pauses = false) (d : Disk) :
    task.calls t d = [] := by
  cases task with
  | enter path => rfl
  | visit path kind =>
    cases kind with
    | dir => rfl
    | file | link =>
      have hnone : stylesheet? path = none := by simpa [Task.pauses] using h
      simp only [Task.calls, hnone]

theorem requests_calls (task : Task) (d : Disk) :
    requests (task.calls t d) =
      match task.gain t e d with
      | .error _ => []
      | .ok g => g.request?.toList := by
  cases task with
  | enter path =>
    simp only [Task.calls, Task.gain]
    cases d.list path <;> rfl
  | visit path kind =>
    cases kind with
    | dir =>
      simp only [Task.calls, Task.gain]
      cases e.excludes (Text.lossy path) <;> rfl
    | file | link =>
      simp only [Task.calls, Task.gain]
      cases stylesheet? path with
      | none => rfl
      | some text =>
        simp only [sheetGain]
        cases d.readText (encode text) with
        | error fault => rfl
        | ok content =>
          simp only [World.requests_callsFor]
          cases t.namesOf d content text <;> rfl

theorem calls_visitFile_of_none {path : Bytes} (h : stylesheet? path = none) (w : World) :
    ((visitFile t path).run w).2.calls = w.calls := by
  unfold visitFile
  cases htext : Text.decode? path with
  | none => rfl
  | some text =>
    have hm : Module.isModule text = false := by
      simpa [stylesheet?, htext, Option.filter_some] using h
    simp only [hm]
    rfl

theorem calls_visitFile_of_some {path : Bytes} {text : String} (h : stylesheet? path = some text)
    (w : World) : ((visitFile t path).run w).2.calls = w.calls ++
      match (World.pause.run w).2.disk.readText (encode text) with
      | .error _ => []
      | .ok content => t.callsFor (World.pause.run w).2.disk content text := by
  obtain ⟨htext, hm⟩ := stylesheet?_eq_some_iff.1 h
  unfold visitFile
  simp only [htext, hm, if_true, run_bind, run_get]
  rw [Text.decode?_eq_some_iff.1 htext, ← World.calls_pause w]
  generalize (World.pause.run w).2 = paused
  cases paused.disk.readText path with
  | error fault => exact (List.append_nil _).symm
  | ok content =>
    dsimp only
    rw [run_bind, ← World.calls_generate (t := t) content hm]
    cases ((Generator.generate t.capabilities content text).run paused).1 with
    | error f => rfl
    | ok outcome => cases outcome <;> rfl

theorem calls_visitFile (path : Bytes) {kind : Disk.Kind} (hk : kind ≠ .dir) (w : World) :
    ((visitFile t path).run w).2.calls = w.calls ++
      (Task.visit path kind).calls t ((Task.visit path kind).entered w).disk := by
  cases kind with
  | dir => exact absurd rfl hk
  | file | link =>
    cases hsheet : stylesheet? path with
    | none =>
      simp only [Task.calls, hsheet, List.append_nil]
      exact calls_visitFile_of_none hsheet w
    | some text =>
      simp only [Task.calls, Task.entered, Task.pauses, hsheet, Option.isSome_some, if_true]
      exact calls_visitFile_of_some hsheet w

theorem calls_step (task : Task) (later : List Task) (s : Summary) (w : World) :
    ((step t e ⟨task :: later, s⟩).run w).2.calls =
      w.calls ++ task.calls t (task.entered w).disk := by
  cases task with
  | enter path =>
    simp only [step, run_bind, run_get, Task.calls, List.append_nil]
    rw [← World.calls_pause w]
    cases (World.pause.run w).2.disk.list path <;> rfl
  | visit path kind =>
    cases kind with
    | dir =>
      simp only [step, Task.calls, List.append_nil]
      cases e.excludes (Text.lossy path) <;> rfl
    | file | link =>
      rw [← calls_visitFile path (by simp)]
      simp only [step, run_bind]
      cases ((visitFile t path).run w).1 <;> rfl

variable {fuel fuel' fuel'' : Nat} {p p' p'' : Progress} {seen seen' : List Turn} {w'' : World}

/-- A walk gets from one point to another, and these are the turns in between. -/
structure Advances (t : Toolchain) (e : Exclusion) (fuel : Nat) (p : Progress) (w : World)
    (seen : List Turn) (fuel' : Nat) (p' : Progress) (w' : World) : Prop where
  run_eq : (run t e fuel p).run w = (run t e fuel' p').run w'
  looks_eq : looks t e fuel p w = seen ++ looks t e fuel' p' w'
  calls_eq : w'.calls = w.calls ++ seen.flatMap (·.calls t)

theorem Advances.refl : Advances t e fuel p w [] fuel p w := ⟨rfl, rfl, (List.append_nil _).symm⟩

theorem Advances.trans (h : Advances t e fuel p w seen fuel' p' w')
    (h' : Advances t e fuel' p' w' seen' fuel'' p'' w'') :
    Advances t e fuel p w (seen ++ seen') fuel'' p'' w'' where
  run_eq := h.run_eq.trans h'.run_eq
  looks_eq := by rw [h.looks_eq, h'.looks_eq, List.append_assoc]
  calls_eq := by rw [h'.calls_eq, h.calls_eq, List.flatMap_append, List.append_assoc]

variable {task : Task} {later : List Task} {s : Summary} {f : Failure} {last : World}

theorem flatMap_calls_look (task : Task) (w : World) :
    (task.look w).flatMap (·.calls t) = task.calls t (task.entered w).disk := by
  unfold Task.look
  cases hpauses : task.pauses with
  | true => simp [Turn.calls]
  | false => simp [calls_of_not_pauses hpauses]

theorem Advances.of_step (h : (step t e ⟨task :: later, s⟩).run w = (.ok p', w')) :
    Advances t e (fuel + 1) ⟨task :: later, s⟩ w (task.look w) fuel p' w' where
  run_eq := by rw [run_succ, h]
  looks_eq := by
    rw [looks]
    dsimp only
    rw [h]
  calls_eq := by
    have hcalls := calls_step (t := t) (e := e) task later s w
    rw [h] at hcalls
    rw [hcalls, flatMap_calls_look]

theorem exists_step {g : Gain} (h : task.gain t e (task.entered w).disk = .ok g)
    (later : List Task) (s : Summary) : ∃ w', (step t e ⟨task :: later, s⟩).run w =
      (.ok ⟨g.tasks ++ later, s ++ g.summary⟩, w') := by
  obtain ⟨noted, -, hrun⟩ := run_step (t := t) (e := e) task later s w
  rw [h] at hrun
  exact ⟨_, hrun⟩

theorem eq_of_fails (h : (run t e fuel p).run w = (.error f, last)) :
    ∃ fuel' task later s, fuel = fuel' + 1 ∧ p = ⟨task :: later, s⟩ := by
  obtain ⟨_ | ⟨task, later⟩, s⟩ := p
  · cases fuel <;> cases h
  · cases fuel with
    | zero => cases h
    | succ fuel => exact ⟨fuel, task, later, s, rfl, rfl⟩

theorem pauses_of_error {d : Disk} (h : task.gain t e d = .error f) : task.pauses = true := by
  cases task with
  | enter path => rfl
  | visit path kind =>
    cases kind with
    | dir =>
      simp only [Task.gain] at h
      split at h <;> cases h
    | file | link =>
      simp only [Task.gain] at h
      split at h
      · cases h
      next text hsheet => simp [Task.pauses, hsheet]

/-- The first task of a walk that fails: the walk fails with it, or it goes on behind it. -/
theorem fails_cases {P : Disk → Prop} {Q : WriteRequest → Prop} (ho : World.Outlasts P Q)
    (htame : World.Tame P Q w)
    (hQ : ∀ g r, task.gain t e (task.entered w).disk = .ok g → g.request? = some r → Q r)
    (h : (run t e fuel ⟨task :: later, s⟩).run w = (.error f, last)) :
    ∃ fuel', fuel = fuel' + 1 ∧ (task.gain t e (task.entered w).disk = .error f ∨
      ∃ g w', task.gain t e (task.entered w).disk = .ok g ∧ World.Tame P Q w' ∧
        Advances t e fuel ⟨task :: later, s⟩ w (task.look w) fuel'
          ⟨g.tasks ++ later, s ++ g.summary⟩ w') := by
  obtain ⟨fuel, -, -, -, rfl, -⟩ := eq_of_fails h
  refine ⟨fuel, rfl, ?_⟩
  cases hgain : task.gain t e (task.entered w).disk with
  | error f' =>
    obtain ⟨noted, -, hrun⟩ := run_step (t := t) (e := e) task later s w
    rw [hgain] at hrun
    rw [run_succ, hrun] at h
    exact .inl (congrArg Except.error (Except.error.inj (Prod.mk.inj h).1))
  | ok g =>
    obtain ⟨w', hstep⟩ := exists_step hgain later s
    exact .inr ⟨g, w', rfl, tame_step ho htame hQ hstep, .of_step hstep⟩

theorem stop_of_error (h : task.gain t e (task.entered w).disk = .error f) :
    ∃ last, (run t e (fuel + 1) ⟨task :: later, s⟩).run w = (.error f, last) ∧
      looks t e (fuel + 1) ⟨task :: later, s⟩ w = [⟨task, (task.entered w).disk⟩] ∧
      last.calls = w.calls ++ task.calls t (task.entered w).disk := by
  obtain ⟨noted, -, hrun⟩ := run_step (t := t) (e := e) task later s w
  have hcalls := calls_step (t := t) (e := e) task later s w
  rw [h] at hrun
  rw [hrun] at hcalls
  refine ⟨noted, by rw [run_succ, hrun]; rfl, ?_, hcalls⟩
  rw [looks]
  dsimp only
  rw [hrun, Task.look, if_pos (pauses_of_error h)]
  rfl

end StyleTypings.Walk
