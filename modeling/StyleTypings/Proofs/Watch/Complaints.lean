import StyleTypings.Proofs.Generator.Answer
import StyleTypings.Proofs.Walk.Start
import StyleTypings.Proofs.Walk.Still
import StyleTypings.Proofs.Watch.Course
import StyleTypings.Proofs.World.Output

namespace StyleTypings

open World (Noted run_bind run_get)

def Failure.Supported (f : Failure) : Prop :=
  ∀ path extension, f ≠ .unsupportedDialect path extension

variable {t : Toolchain} {e : Exclusion} {d : Disk} {content path : String} {f : Failure}
  {w : World}

theorem Toolchain.namesOf_failure (hmodule : Module.isModule path = true)
    (h : t.namesOf d content path = .error f) :
    (∃ fault, f = .compile path fault) ∨ ∃ failure, f = .parse path failure := by
  obtain ⟨dialect, hdialect⟩ := Module.exists_ofPath? hmodule
  rcases (namesOf_eq_error_iff hdialect).1 h with ⟨-, fault, -, -, rfl⟩ | ⟨-, failure, -, -, rfl⟩
  · exact .inl ⟨fault, rfl⟩
  · exact .inr ⟨failure, rfl⟩

theorem Toolchain.supported_of_namesOf (hmodule : Module.isModule path = true)
    (h : t.namesOf d content path = .error f) : f.Supported := by
  rcases namesOf_failure hmodule h with ⟨fault, rfl⟩ | ⟨failure, rfl⟩ <;> rintro _ _ ⟨⟩

theorem Generator.supported_of_generate {σ : Type} {c : Capabilities (StateM σ)} {s : σ}
    (h : ((generate c content path).run s).1 = .error f) : f.Supported := by
  cases hmodule : Module.isModule path with
  | false =>
    rw [run_generate_of_not_module _ _ hmodule] at h
    cases h
  | true =>
    obtain ⟨d, stem, rfl⟩ := Module.exists_of_isModule hmodule
    have hdialect := Module.ofPath?_ending stem d
    rw [run_generate _ _ hmodule hdialect] at h
    split at h
    next s' hextract =>
      cases h
      rcases extract_failure hdialect (congrArg Prod.fst hextract) with
          ⟨fault, rfl⟩ | ⟨failure, rfl⟩
        <;> rintro _ _ ⟨⟩
    · cases h

namespace Walk

theorem supported_failure (path : Text.Bytes) (fault : Disk.Fault) :
    (failure path fault).Supported := by
  unfold failure
  split <;> rintro _ _ ⟨⟩

theorem supported_readFailure (path : String) (fault : Disk.Fault) :
    (readFailure path fault).Supported := by
  unfold readFailure
  split <;> rintro _ _ ⟨⟩

theorem supported_of_gain {task : Task} (h : task.gain t e d = .error f) : f.Supported := by
  have hsheet {path : Text.Bytes} {kind : Disk.Kind} (hk : kind ≠ .dir)
      (h : (Task.visit path kind).gain t e d = .error f) : f.Supported := by
    cases hs : stylesheet? path with
    | none =>
      cases kind with
      | dir => exact absurd rfl hk
      | file | link =>
        simp only [Task.gain, hs] at h
        cases h
    | some text =>
      rw [gain_of_stylesheet hk hs, sheetGain] at h
      split at h
      next fault _ => exact Except.error.inj h ▸ supported_readFailure text fault
      · split at h
        next failure hnames =>
          cases h
          exact Toolchain.supported_of_namesOf (stylesheet?_eq_some_iff.1 hs).2 hnames
        · cases h
  cases task with
  | enter path =>
    simp only [Task.gain] at h
    split at h
    next fault _ => exact Except.error.inj h ▸ supported_failure path fault
    · cases h
  | visit path kind =>
    cases kind with
    | dir =>
      simp only [Task.gain] at h
      split at h <;> cases h
    | file | link => exact hsheet (by simp) h

theorem supported_of_run {fuel : Nat} {p : Progress} (h : ((run t e fuel p).run w).1 = .error f) :
    f.Supported := by
  induction fuel generalizing p w with
  | zero => cases h
  | succ fuel ih =>
    obtain ⟨_ | ⟨task, later⟩, s⟩ := p
    · cases h
    · obtain ⟨noted, -, hrun⟩ := run_step (t := t) (e := e) task later s w
      rw [run_succ, hrun] at h
      cases hgain : task.gain t e (task.entered w).disk with
      | error f' =>
        rw [hgain] at h
        cases h
        exact supported_of_gain hgain
      | ok g =>
        rw [hgain] at h
        exact ih h

theorem supported_of_fromDirectory {root : String}
    (h : ((fromDirectory t e root).run w).1 = .error f) : f.Supported := by
  cases hstart : start w.disk (Text.encode root) with
  | error f' =>
    have hf : f' = f := by
      unfold fromDirectory at h
      rw [run_bind, run_get] at h
      simp only [hstart] at h
      exact Except.error.inj h
    subst hf
    unfold start at hstart
    split at hstart
    next fault _ => exact Except.error.inj hstart ▸ supported_failure _ fault
    · split at hstart
      next fault _ => exact Except.error.inj hstart ▸ supported_failure _ fault
      · cases hstart
      · cases hstart
    · cases hstart
  | ok tasks =>
    rw [run_fromDirectory hstart] at h
    exact supported_of_run h

end Walk

namespace Watch

open Text (encode)

inductive Complaint (path : String) : String → Prop
  | unreadable (fault : Disk.Fault) :
    Complaint path ("Error: failed to read " ++ path ++ ": " ++ fault.message ++ "\n")
  | uncompiled (fault : Tool.Fault) :
    Complaint path ("Error: " ++ (Failure.compile path fault).message ++ "\n")
  | unparsed (failure : Css.Failure) :
    Complaint path ("Error: " ++ (Failure.parse path failure).message ++ "\n")

theorem run_printError (w : World) (line : String) :
    ((World.printError line).run w).2.errors = w.errors ++ (line ++ "\n") := by
  rw [World.printError, World.run_modify, String.append_assoc]

theorem errors_update (w : World) {text : String} (hmodule : Module.isModule text = true)
    (found : Except Disk.Fault String) :
    ((update t text found).run w).2.errors = w.errors ∨ ∃ line, Complaint text line ∧
      ((update t text found).run w).2.errors = w.errors ++ line := by
  cases found with
  | error fault =>
    by_cases hgone : fault = .noEntry
    · subst hgone
      exact .inl rfl
    · refine .inr ⟨_, .unreadable fault, ?_⟩
      cases fault <;> first
        | exact absurd rfl hgone
        | exact run_printError w _
  | ok content =>
    obtain ⟨noted, hnoted, hgenerate⟩ := World.run_generate t w content hmodule
    simp only [update, run_bind, hgenerate]
    rw [← hnoted.errors_eq]
    cases hnames : t.namesOf w.disk content text with
    | error f =>
      right
      rcases Toolchain.namesOf_failure hmodule hnames with ⟨fault, rfl⟩ | ⟨failure, rfl⟩
      · exact ⟨_, .uncompiled fault, run_printError noted _⟩
      · exact ⟨_, .unparsed failure, run_printError noted _⟩
    | ok names =>
      exact .inl ((World.errors_print _ _).trans (World.errors_capability_submit noted _))

theorem errors_regenerate (w : World) {text : String} (hmodule : Module.isModule text = true) :
    ((regenerate t text).run w).2.errors = w.errors ∨ ∃ line, Complaint text line ∧
      ((regenerate t text).run w).2.errors = w.errors ++ line := by
  rw [run_regenerate, ← World.errors_pause w]
  exact errors_update _ hmodule _

theorem errors_regenerateAll {texts : List String}
    (hmodule : ∀ text ∈ texts, Module.isModule text = true) {answer : Except Disk.Fault Unit}
    {w' : World} (h : (regenerateAll t texts).run w = (answer, w')) :
    ∃ lines : List String, w'.errors = w.errors ++ String.join lines ∧
      ∀ line ∈ lines, ∃ text ∈ texts, Complaint text line := by
  induction texts generalizing w with
  | nil =>
    obtain ⟨-, rfl⟩ := Prod.mk.inj h
    exact ⟨[], String.append_empty.symm, by simp⟩
  | cons text texts ih =>
    have hlater : ∃ lines : List String,
        w'.errors = ((regenerate t text).run w).2.errors ++ String.join lines ∧
          ∀ line ∈ lines, ∃ other ∈ text :: texts, Complaint other line := by
      rcases run_regenerateAll_cons h with ⟨-, -, -, rfl⟩ | ⟨-, h'⟩
      · exact ⟨[], String.append_empty.symm, by simp⟩
      · obtain ⟨lines, herrors, hlines⟩ :=
          ih (fun other ho ↦ hmodule other (List.mem_cons_of_mem _ ho)) h'
        exact ⟨lines, herrors, fun line hline ↦
          (hlines line hline).imp fun _ ↦ .imp_left (List.mem_cons_of_mem _)⟩
    obtain ⟨lines, herrors, hlines⟩ := hlater
    rcases errors_regenerate (t := t) w (hmodule text (List.mem_cons_self ..)) with
      hsame | ⟨line, hc, hline⟩
    · exact ⟨lines, by rw [herrors, hsame], hlines⟩
    · refine ⟨line :: lines, ?_, List.forall_mem_cons.2 ⟨⟨text, List.mem_cons_self .., hc⟩, hlines⟩⟩
      rw [herrors, hline, String.join_cons, String.append_assoc]

/-- A watcher complains of the stylesheets that an event names, and of what keeps them from being
read, compiled or parsed. -/
theorem errors_receive (t : Toolchain) (e : Exclusion) (root : String) (event : Event) (w : World) :
    ∃ lines : List String,
      ((receive t e root event).run w).2.errors = w.errors ++ String.join lines ∧
      ∀ line ∈ lines, ∃ text ∈ event.stylesheets root e, Complaint text line := by
  unfold receive Event.stylesheets
  split
  · refine errors_regenerateAll (fun text htext ↦ ?_) rfl
    exact (Bool.and_eq_true_iff.1 (of_mem_changedStylesheets htext).2).1
  · exact ⟨[], String.append_empty.symm, by simp⟩

end Watch

/-- Which stylesheets get typings is read off the text behind the last slash of a path, and their
language, which is read off the extension, is the one that the text ends with. So it is known
wherever typings are generated. -/
theorem Module.language_known :
    (∀ path, isModule path = true ↔
      ∃ (d : Dialect) (x : String), Path.behindLastSlash path = x ++ ".module." ++ d.extension) ∧
    (∀ path (d : Dialect),
      (∃ x : String, Path.behindLastSlash path = x ++ ".module." ++ d.extension) ↔
        isModule path = true ∧ Dialect.ofPath? path = some d) ∧
    (∀ (σ : Type) (c : Capabilities (StateM σ)) content path s other extension,
      ((Generator.generate c content path).run s).1 ≠
        .error (.unsupportedDialect other extension)) ∧
    (∀ t e root w other extension, ((Walk.fromDirectory t e root).run w).1 ≠
      .error (.unsupportedDialect other extension)) ∧
    ∀ t e root event w, ∃ lines : List String,
      ((Watch.receive t e root event).run w).2.errors = w.errors ++ String.join lines ∧
      ∀ line ∈ lines, ∃ text ∈ Watch.Event.stylesheets event root e, Watch.Complaint text line := by
  refine ⟨fun path ↦ ?_, fun path d ↦ ?_, fun σ c content path s other extension h ↦ ?_,
    fun t e root w other extension h ↦ ?_, Watch.errors_receive⟩
  · rw [isModule_iff_exists_stem]
    exact exists_congr fun d ↦ exists_stem_iff
  · rw [← exists_stem_iff]
    constructor
    · rintro ⟨stem, rfl⟩
      exact ⟨isModule_ending stem d, ofPath?_ending stem d⟩
    · rintro ⟨hmodule, hdialect⟩
      obtain ⟨d', stem, rfl⟩ := exists_of_isModule hmodule
      rw [ofPath?_ending] at hdialect
      exact ⟨stem, by rw [Option.some.inj hdialect]⟩
  · exact Generator.supported_of_generate h other extension rfl
  · exact Walk.supported_of_fromDirectory h other extension rfl

end StyleTypings
