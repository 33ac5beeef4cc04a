import StyleTypings.Proofs.Walk.Gains
import StyleTypings.Proofs.Watch.Session

namespace StyleTypings

open Text (Bytes encode)
open World (Noted Outlasts Tame run_bind run_get)

/-- What becomes of a disk when typings of stylesheets are written. -/
inductive Retyped (d : Disk) : Disk → Prop
  | refl : Retyped d d
  | write {d' d'' : Disk} {text : String} {contents : Bytes} (h : Retyped d d')
      (hmodule : Module.isModule text = true)
      (hwrite : d'.write (encode (Module.typingsPath text)) contents = .ok d'') : Retyped d d''

def Retypes (r : WriteRequest) : Prop :=
  ∃ text, Module.isModule text = true ∧ r.target = Module.typingsPath text

theorem retyped_outlasts (d : Disk) : Outlasts (Retyped d) Retypes := by
  rintro d' r d'' hd ⟨text, hmodule, htarget⟩ hwrite
  exact hd.write hmodule (htarget ▸ hwrite)

namespace Toolchain

/-- Tools that answer on a disk as they do whatever typings are written there. -/
structure Steady (t : Toolchain) (d : Disk) : Prop where
  compile {d' : Disk} (h : Retyped d d') : t.compiler.compile d' = t.compiler.compile d
  format {d' : Disk} (h : Retyped d d') : t.formatter.format d' = t.formatter.format d

def frozen (t : Toolchain) (d : Disk) : Toolchain where
  compiler := ⟨fun _ ↦ t.compiler.compile d⟩
  formatter := ⟨fun _ ↦ t.formatter.format d⟩
  sink := t.sink

theorem functional_frozen (t : Toolchain) (d : Disk) : Watch.Functional (t.frozen d) :=
  ⟨fun _ _ ↦ rfl, fun _ _ ↦ rfl⟩

/-- Tools that cannot be told apart on a disk. -/
structure Alike (t t' : Toolchain) (d : Disk) : Prop where
  compile : t.compiler.compile d = t'.compiler.compile d
  format : t.formatter.format d = t'.formatter.format d
  sink : t.sink = t'.sink

theorem Steady.alike {t : Toolchain} {d d' : Disk} (h : t.Steady d) (hd : Retyped d d') :
    t.Alike (t.frozen d) d' :=
  ⟨h.compile hd, h.format hd, rfl⟩

variable {t t' : Toolchain} {w : World}

theorem Alike.run_compile (h : t.Alike t' w.disk) (source : String) (form : Form) (path : String) :
    (t.capabilities.compile source form path).run w =
      (t'.capabilities.compile source form path).run w := by
  simp only [capabilities, run_bind, World.run_note, run_get, h.compile]

theorem Alike.run_extract (h : t.Alike t' w.disk) (content path : String) :
    (Generator.extract t.capabilities content path).run w =
      (Generator.extract t'.capabilities content path).run w := by
  unfold Generator.extract
  cases Dialect.ofPath? path with
  | none => rfl
  | some dialect =>
    dsimp only
    cases dialect.form? with
    | none => rfl
    | some form =>
      dsimp only
      rw [run_bind, run_bind, h.run_compile]

theorem Alike.run_formatted (h : t.Alike t' w.disk) (text target : String) :
    (Generator.formatted t.capabilities text target).run w =
      (Generator.formatted t'.capabilities text target).run w := by
  have hformat : (t.capabilities.format text target).run w =
      (t'.capabilities.format text target).run w := by
    simp only [capabilities, run_bind, World.run_note, run_get, h.format]
  unfold Generator.formatted
  rw [run_bind, run_bind, hformat]
  rfl

theorem Alike.submit_eq (h : t.Alike t' w.disk) :
    t.capabilities.submit = t'.capabilities.submit := by
  unfold capabilities
  rw [h.sink]

theorem Alike.run_submitTypings (h : t.Alike t' w.disk) (names : List String) (path : String) :
    (Generator.submitTypings t.capabilities names path).run w =
      (Generator.submitTypings t'.capabilities names path).run w := by
  unfold Generator.submitTypings
  simp only [run_bind, h.run_formatted, h.submit_eq]
  rfl

theorem Alike.run_generate (h : t.Alike t' w.disk) (content path : String) :
    (Generator.generate t.capabilities content path).run w =
      (Generator.generate t'.capabilities content path).run w := by
  obtain ⟨w', hextract, hnoted⟩ := World.run_extract t w content path
  have hextract' := (h.run_extract content path).symm.trans hextract
  unfold Generator.generate
  split
  · rw [run_bind, run_bind, hextract, hextract']
    cases t.namesOf w.disk content path with
    | error f => rfl
    | ok names =>
      dsimp only
      rw [run_bind, run_bind, Alike.run_submitTypings (hnoted.disk_eq ▸ h)]
  · rfl

end Toolchain

namespace Walk

variable {t t' : Toolchain} {e : Exclusion} {w : World} {d : Disk}

theorem run_visitFile_of_alike {path : Bytes}
    (h : (stylesheet? path).isSome → t.Alike t' (World.pause.run w).2.disk) :
    (visitFile t path).run w = (visitFile t' path).run w := by
  unfold visitFile
  cases htext : Text.decode? path with
  | none => rfl
  | some text =>
    dsimp only
    cases hmodule : Module.isModule text with
    | false => rfl
    | true =>
      have halike := h (by simp [stylesheet?_eq_some_iff.2 ⟨htext, hmodule⟩])
      simp only [if_true, run_bind, run_get]
      cases (World.pause.run w).2.disk.readText path with
      | error fault => rfl
      | ok content =>
        dsimp only
        rw [run_bind, run_bind, halike.run_generate]

theorem run_step_of_alike {task : Task} (h : t.Alike t' (task.entered w).disk) (later : List Task)
    (s : Summary) :
    (step t e ⟨task :: later, s⟩).run w = (step t' e ⟨task :: later, s⟩).run w := by
  cases task with
  | enter path => rfl
  | visit path kind =>
    cases kind with
    | dir => rfl
    | file | link =>
      have hvisit : (visitFile t path).run w = (visitFile t' path).run w :=
        run_visitFile_of_alike fun hsheet ↦ by simpa [Task.entered, Task.pauses, hsheet] using h
      simp only [step, run_bind, hvisit]

theorem retypes_of_sheetGain {text : String} {g : Gain} (hmodule : Module.isModule text = true)
    (h : sheetGain t d text = .ok g) {r : WriteRequest} (hr : g.request? = some r) :
    Retypes r := by
  obtain ⟨content, names, -, -, rfl⟩ := sheetGain_eq_ok_iff.1 h
  cases hr
  exact ⟨text, hmodule, rfl⟩

theorem retypes_of_gain {task : Task} {g : Gain} (h : task.gain t e d = .ok g) {r : WriteRequest}
    (hr : g.request? = some r) : Retypes r := by
  cases task with
  | enter path =>
    simp only [Task.gain] at h
    split at h <;> cases h
    cases hr
  | visit path kind =>
    cases kind with
    | dir =>
      simp only [Task.gain] at h
      split at h <;> cases h <;> cases hr
    | file | link =>
      simp only [Task.gain] at h
      split at h
      · cases h
        cases hr
      next text hsheet => exact retypes_of_sheetGain (stylesheet?_eq_some_iff.1 hsheet).2 h hr

theorem run_succ (fuel : Nat) (task : Task) (later : List Task) (s : Summary) (w : World) :
    (run t e (fuel + 1) ⟨task :: later, s⟩).run w =
      match (step t e ⟨task :: later, s⟩).run w with
      | (.error f, w') => (.error f, w')
      | (.ok p, w') => (run t e fuel p).run w' := by
  conv => lhs; unfold run
  rw [run_bind]
  generalize (step t e ⟨task :: later, s⟩).run w = result
  obtain ⟨_ | _, w'⟩ := result <;> rfl

section Tame

variable {P : Disk → Prop} {Q : WriteRequest → Prop} (ho : Outlasts P Q)
include ho

theorem tame_entered (h : Tame P Q w) (task : Task) : Tame P Q (task.entered w) := by
  unfold Task.entered
  split
  · exact h.pause ho
  · exact h

theorem tame_step (h : Tame P Q w) {task : Task} {later : List Task} {s : Summary} {p : Progress}
    {w' : World}
    (hQ : ∀ g r, task.gain t e (task.entered w).disk = .ok g → g.request? = some r → Q r)
    (hstep : (step t e ⟨task :: later, s⟩).run w = (.ok p, w')) : Tame P Q w' := by
  obtain ⟨noted, hnoted, hrun⟩ := run_step (t := t) (e := e) task later s w
  have htame := hnoted.tame (tame_entered ho h task)
  rw [hstep] at hrun
  cases hgain : task.gain t e (task.entered w).disk with
  | error f =>
    rw [hgain] at hrun
    cases hrun
  | ok g =>
    rw [hgain] at hrun
    obtain ⟨-, rfl⟩ := Prod.mk.inj hrun
    cases hr : g.request? with
    | none => exact htame
    | some r => exact htame.submits ho fun _ ↦ hQ g r hgain hr

end Tame

/-- A walk with tools that take no notice of typings is a walk with tools that do not look at the
disk. -/
theorem run_frozen (hsteady : t.Steady d) (h : Tame (Retyped d) Retypes w) (fuel : Nat)
    (p : Progress) : (run t e fuel p).run w = (run (t.frozen d) e fuel p).run w := by
  induction fuel generalizing w p with
  | zero => rfl
  | succ fuel ih =>
    obtain ⟨_ | ⟨task, later⟩, s⟩ := p
    · rfl
    · have halike := hsteady.alike (tame_entered (retyped_outlasts d) h task).disk
      rw [run_succ, run_succ, ← run_step_of_alike halike]
      cases hstep : (step t e ⟨task :: later, s⟩).run w with
      | mk result w' =>
        cases result with
        | error f => rfl
        | ok p => exact ih (tame_step (retyped_outlasts d) h
            (fun _ _ hgain hr ↦ retypes_of_gain hgain hr) hstep) p

theorem run_fromDirectory_frozen (hsteady : t.Steady d) (h : Tame (Retyped d) Retypes w)
    (root : String) :
    (fromDirectory t e root).run w = (fromDirectory (t.frozen d) e root).run w := by
  unfold fromDirectory
  simp only [run_bind, run_get]
  cases start w.disk (encode root) with
  | error f => rfl
  | ok tasks => exact run_frozen hsteady h _ _

end Walk
end StyleTypings
