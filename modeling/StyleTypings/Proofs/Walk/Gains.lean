import StyleTypings.Proofs.Walk.Chosen
import StyleTypings.Proofs.World.Generation

namespace StyleTypings

instance : Append Summary where
  append a b := ⟨a.generated ++ b.generated, a.excluded ++ b.excluded⟩

theorem Summary.append_eq (a b : Summary) :
    a ++ b = ⟨a.generated ++ b.generated, a.excluded ++ b.excluded⟩ := rfl

namespace Walk

open Text (Bytes)
open World (Noted requests run_bind run_get)

def stylesheet? (path : Bytes) : Option String :=
  (Text.decode? path).filter Module.isModule

theorem stylesheet?_eq_some_iff {path : Bytes} {text : String} :
    stylesheet? path = some text ↔ Text.decode? path = some text ∧ Module.isModule text = true := by
  simp [stylesheet?]

structure Gain where
  tasks : List Task := []
  summary : Summary := {}
  request? : Option WriteRequest := none

variable (t : Toolchain) (e : Exclusion)

def sheetGain (d : Disk) (text : String) : Except Failure Gain :=
  match d.readText (Text.encode text) with
  | .error fault => .error (readFailure text fault)
  | .ok content =>
    match t.namesOf d content text with
    | .error f => .error f
    | .ok names => .ok
      { summary := ⟨[Module.typingsPath text], []⟩, request? := some (t.requestFor d names text) }

def Task.gain (d : Disk) : Task → Except Failure Gain
  | .enter path =>
    match d.list path with
    | .error fault => .error (failure path fault)
    | .ok entries => .ok { tasks := visits path entries }
  | .visit path .dir =>
    if e.excludes (Text.lossy path) then .ok { summary := ⟨[], [Text.lossy path]⟩ }
    else .ok { tasks := [.enter path] }
  | .visit path _ =>
    match stylesheet? path with
    | none => .ok {}
    | some text => sheetGain t d text

def Task.pauses : Task → Bool
  | .enter _ => true
  | .visit _ .dir => false
  | .visit path _ => (stylesheet? path).isSome

def Task.entered (task : Task) (w : World) : World :=
  if task.pauses then (World.pause.run w).2 else w

def submits : Option WriteRequest → App Unit
  | none => pure ()
  | some r => t.capabilities.submit r

def outcome (later : List Task) (s : Summary) (noted : World) :
    Except Failure Gain → Except Failure Progress × World
  | .error f => (.error f, noted)
  | .ok g => (.ok ⟨g.tasks ++ later, s ++ g.summary⟩, ((submits t g.request?).run noted).2)

variable {t e}

theorem sheetGain_eq_ok_iff {d : Disk} {text : String} {g : Gain} :
    sheetGain t d text = .ok g ↔ ∃ content names, d.readText (Text.encode text) = .ok content ∧
      t.namesOf d content text = .ok names ∧
      g = { summary := ⟨[Module.typingsPath text], []⟩
            request? := some (t.requestFor d names text) } := by
  unfold sheetGain
  constructor
  · intro h
    split at h
    · cases h
    next content hread =>
      split at h
      · cases h
      next names hnames =>
        cases h
        exact ⟨content, names, hread, hnames, rfl⟩
  · rintro ⟨content, names, hread, hnames, rfl⟩
    rw [hread]
    dsimp only
    rw [hnames]

theorem summary_append_empty (s : Summary) : s ++ ({} : Summary) = s := by
  simp [Summary.append_eq]

theorem gain_of_stylesheet {path : Bytes} {kind : Disk.Kind} (hk : kind ≠ .dir) {text : String}
    (h : stylesheet? path = some text) (d : Disk) :
    (Task.visit path kind).gain t e d = sheetGain t d text := by
  cases kind with
  | dir => exact absurd rfl hk
  | file | link => simp only [Task.gain, h]

theorem run_visitFile_of_none {path : Bytes} (h : stylesheet? path = none) (w : World) :
    ∃ noted, Noted w noted ∧ (visitFile t path).run w = (.ok none, noted) := by
  unfold visitFile
  cases htext : Text.decode? path with
  | none => exact ⟨_, World.noted_say w _, rfl⟩
  | some text =>
    have hm : Module.isModule text = false := by
      simpa [stylesheet?, htext, Option.filter_some] using h
    exact ⟨w, .refl w, by simp only [hm]; rfl⟩

theorem run_visitFile_of_some {path : Bytes} {text : String} (h : stylesheet? path = some text)
    (w : World) : ∃ noted, Noted (World.pause.run w).2 noted ∧ (visitFile t path).run w =
      match sheetGain t (World.pause.run w).2.disk text with
      | .error f => (.error f, noted)
      | .ok g => (.ok (some (Module.typingsPath text)), ((submits t g.request?).run noted).2) := by
  obtain ⟨htext, hm⟩ := stylesheet?_eq_some_iff.1 h
  unfold visitFile
  simp only [htext, hm, if_true, run_bind, run_get, sheetGain]
  rw [Text.decode?_eq_some_iff.1 htext]
  generalize (World.pause.run w).2 = paused
  cases hread : paused.disk.readText path with
  | error fault => exact ⟨paused, .refl paused, rfl⟩
  | ok content =>
    obtain ⟨noted, hnoted, hgenerate⟩ := World.run_generate t paused content hm
    refine ⟨noted, hnoted, ?_⟩
    dsimp only
    rw [run_bind, hgenerate]
    cases t.namesOf paused.disk content text <;> rfl

theorem run_step_visit_dir (path : Bytes) (later : List Task) (s : Summary) (w : World) :
    ∃ noted, Noted w noted ∧ (step t e ⟨.visit path .dir :: later, s⟩).run w =
      outcome t later s noted ((Task.visit path .dir).gain t e w.disk) := by
  simp only [step, Task.gain]
  cases e.excludes (Text.lossy path) with
  | true =>
    refine ⟨_, World.noted_say w (.directoryExcluded (Text.lossy path)), ?_⟩
    simp only [if_true, outcome, Summary.append_eq, List.append_nil]
    rfl
  | false =>
    refine ⟨w, .refl w, ?_⟩
    simp only [Bool.false_eq_true, if_false, outcome, summary_append_empty]
    rfl

theorem run_step_visit_file {kind : Disk.Kind} (hk : kind ≠ .dir) (path : Bytes)
    (later : List Task) (s : Summary) (w : World) :
    ∃ noted, Noted ((Task.visit path kind).entered w) noted ∧
      (step t e ⟨.visit path kind :: later, s⟩).run w = outcome t later s noted
        ((Task.visit path kind).gain t e ((Task.visit path kind).entered w).disk) := by
  cases kind with
  | dir => exact absurd rfl hk
  | file | link =>
    cases hs : stylesheet? path with
    | none =>
      obtain ⟨noted, hnoted, hvisit⟩ := run_visitFile_of_none (t := t) hs w
      refine ⟨noted, by simpa [Task.entered, Task.pauses, hs] using hnoted, ?_⟩
      simp only [step, Task.gain, run_bind, hvisit, hs, outcome, summary_append_empty]
      simp
      rfl
    | some text =>
      obtain ⟨noted, hnoted, hvisit⟩ := run_visitFile_of_some (t := t) hs w
      refine ⟨noted, by simpa [Task.entered, Task.pauses, hs] using hnoted, ?_⟩
      simp only [step, Task.gain, Task.entered, Task.pauses, run_bind, hvisit, hs,
        Option.isSome_some, if_true]
      cases hg : sheetGain t (World.pause.run w).2.disk text with
      | error f => rfl
      | ok g =>
        obtain ⟨content, names, -, -, rfl⟩ := sheetGain_eq_ok_iff.1 hg
        simp only [outcome, Summary.append_eq, List.append_nil]
        rfl

/-- What a step of a walk does: the writer works if the task lets it, and what the task adds is
looked up on the disk behind that. -/
theorem run_step (task : Task) (later : List Task) (s : Summary) (w : World) :
    ∃ noted, Noted (task.entered w) noted ∧ (step t e ⟨task :: later, s⟩).run w =
      outcome t later s noted (task.gain t e (task.entered w).disk) := by
  cases task with
  | enter path =>
    refine ⟨_, .refl _, ?_⟩
    simp only [step, Task.gain, Task.entered, Task.pauses, if_true, run_bind, run_get]
    cases (World.pause.run w).2.disk.list path with
    | error fault => rfl
    | ok entries =>
      simp only [outcome, summary_append_empty]
      rfl
  | visit path kind =>
    cases kind with
    | file | link => exact run_step_visit_file (by simp) path later s w
    | dir => exact run_step_visit_dir path later s w

end Walk
end StyleTypings
