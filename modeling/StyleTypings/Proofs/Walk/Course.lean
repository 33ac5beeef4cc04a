import StyleTypings.Proofs.Walk.Gains

namespace StyleTypings.Walk

open Text (Bytes)
open World (Noted Tame Outlasts targets run_bind run_get)

variable {t : Toolchain} {e : Exclusion} {w w' : World}

theorem visitFile_cases {path : Bytes} {target : Option String}
    (h : (visitFile t path).run w = (.ok target, w')) :
    (stylesheet? path = none ∧ target = none ∧ Noted w w') ∨
      ∃ text, stylesheet? path = some text ∧ target = some (Module.typingsPath text) ∧
        World.Submitted t text (World.pause.run w).2 w' := by
  cases hsheet : stylesheet? path with
  | none =>
    obtain ⟨noted, hnoted, hrun⟩ := run_visitFile_of_none (t := t) hsheet w
    rw [hrun] at h
    cases h
    exact .inl ⟨rfl, rfl, hnoted⟩
  | some text =>
    obtain ⟨noted, hnoted, hrun⟩ := run_visitFile_of_some (t := t) hsheet w
    rw [hrun] at h
    cases hgain : sheetGain t (World.pause.run w).2.disk text with
    | error f =>
      rw [hgain] at h
      cases h
    | ok g =>
      rw [hgain] at h
      cases h
      obtain ⟨content, names, hread, hnames, rfl⟩ := sheetGain_eq_ok_iff.1 hgain
      exact .inr ⟨text, rfl, rfl, content, names, noted, hread, hnames, hnoted, rfl⟩

theorem exists_run_visitFile {text content : String} {names : List String} {paused : World}
    (hmodule : Module.isModule text = true) (hpause : World.pause.run w = ((), paused))
    (hread : paused.disk.readText (Text.encode text) = .ok content)
    (hnames : t.namesOf paused.disk content text = .ok names) :
    ∃ noted, Noted paused noted ∧ (visitFile t (Text.encode text)).run w =
      (.ok (some (Module.typingsPath text)),
        ((t.capabilities.submit (t.requestFor paused.disk names text)).run noted).2) := by
  have hsheet : stylesheet? (Text.encode text) = some text :=
    stylesheet?_eq_some_iff.2 ⟨Text.decode?_eq_some_iff.2 rfl, hmodule⟩
  obtain ⟨noted, hnoted, hrun⟩ := run_visitFile_of_some (t := t) hsheet w
  rw [hpause] at hnoted hrun
  rw [sheetGain_eq_ok_iff.2 ⟨content, names, hread, hnames, rfl⟩] at hrun
  exact ⟨noted, hnoted, hrun⟩

/-- Visiting an entry submits the typings of a stylesheet and does nothing else that counts. -/
theorem visitFile_ok {path : Bytes} {target : Option String}
    (h : (visitFile t path).run w = (.ok target, w')) :
    target = (stylesheet? path).map Module.typingsPath ∧
      targets w'.calls = targets w.calls ++ target.toList ∧
      ∀ P Q, Outlasts P Q → Tame P Q w →
        (∀ text r, t.sink = .writer → stylesheet? path = some text →
          r.target = Module.typingsPath text → Q r) → Tame P Q w' := by
  rcases visitFile_cases h with ⟨hnone, rfl, hnoted⟩ | ⟨text, hsheet, rfl, hsubmitted⟩
  · exact ⟨by simp [hnone], by simp [hnoted.targets_eq], fun P Q _ ht _ ↦ hnoted.tame ht⟩
  · obtain ⟨content, names, w₂, -, -, hnoted, rfl⟩ := hsubmitted
    refine ⟨by simp [hsheet], ?_, fun P Q ho ht hQ ↦ ?_⟩
    · rw [World.targets_submit, hnoted.targets_eq, World.calls_pause]
      rfl
    · exact (hnoted.tame (ht.pause ho)).submits ho fun hs ↦ hQ text _ hs hsheet rfl

def Returns (t : Toolchain) (e : Exclusion) (fuel : Nat) (p : Progress) (w : World)
    (answer : Summary) (last : World) : Prop :=
  (run t e fuel p).run w = (.ok answer, last)

variable {fuel : Nat} {task : Task} {later : List Task} {p : Progress} {s answer : Summary}
  {last : World} {path : Bytes}

theorem Returns.done (h : Returns t e fuel ⟨[], s⟩ w answer last) : answer = s ∧ last = w := by
  cases fuel with
  | zero | succ =>
    cases h
    exact ⟨rfl, rfl⟩

theorem Returns.step (h : Returns t e (fuel + 1) ⟨task :: later, s⟩ w answer last) :
    ∃ p w', (step t e ⟨task :: later, s⟩).run w = (.ok p, w') ∧
      Returns t e fuel p w' answer last := by
  unfold Returns run at h
  simp only [run_bind] at h
  generalize (Walk.step t e ⟨task :: later, s⟩).run w = result at h ⊢
  obtain ⟨done, w'⟩ := result
  cases done with
  | error f => cases h
  | ok p => exact ⟨p, w', rfl, h⟩

theorem step_visit_dir (h : (step t e ⟨.visit path .dir :: later, s⟩).run w = (.ok p, w')) :
    (∃ log, w' = { w with log }) ∧
      p = if e.excludes (Text.lossy path) then
          ⟨later, { s with excluded := s.excluded ++ [Text.lossy path] }⟩
        else ⟨.enter path :: later, s⟩ := by
  simp only [Walk.step] at h
  split at h
  next he =>
    cases h
    exact ⟨⟨_, rfl⟩, by rw [if_pos he]⟩
  next he =>
    cases h
    exact ⟨⟨_, rfl⟩, by rw [if_neg he]⟩

theorem step_enter (h : (step t e ⟨.enter path :: later, s⟩).run w = (.ok p, w')) :
    w' = (World.pause.run w).2 ∧
      ∃ entries, w'.disk.list path = .ok entries ∧ p = ⟨visits path entries ++ later, s⟩ := by
  simp only [Walk.step, run_bind, run_get] at h
  generalize (World.pause.run w).2 = w₁ at h ⊢
  cases hlist : w₁.disk.list path with
  | error fault =>
    rw [hlist] at h
    cases h
  | ok entries =>
    rw [hlist] at h
    cases h
    exact ⟨rfl, entries, hlist, rfl⟩

theorem step_visit_file {kind : Disk.Kind} (hk : kind ≠ .dir)
    (h : (step t e ⟨.visit path kind :: later, s⟩).run w = (.ok p, w')) :
    ∃ target, (visitFile t path).run w = (.ok target, w') ∧
      p = ⟨later, { s with generated := s.generated ++ target.toList }⟩ := by
  cases kind with
  | dir => exact absurd rfl hk
  | file | link =>
    simp only [Walk.step, run_bind] at h
    generalize (visitFile t path).run w = result at h ⊢
    obtain ⟨done, w₁⟩ := result
    cases done with
    | error f => cases h
    | ok target =>
      cases h
      exact ⟨target, rfl, rfl⟩

end StyleTypings.Walk
