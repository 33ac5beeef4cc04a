import StyleTypings.Proofs.World.Upkeep
import StyleTypings.Toolchain

namespace StyleTypings

namespace Toolchain

variable (t : Toolchain)

def namesOf (d : Disk) (content path : String) : Except Failure (List String) :=
  match Dialect.ofPath? path with
  | none => .error (.unsupportedDialect path ((Path.extension? path).getD ""))
  | some dialect =>
    match dialect.form? with
    | none => Generator.namesOf content path
    | some form =>
      match (t.compiler.compile d content form path).2 with
      | .error fault => .error (.compile path fault)
      | .ok css => Generator.namesOf css path

/-- The CSS of a stylesheet: its own text, or what the compiler gives for it. -/
inductive Yields (d : Disk) (content path : String) : String → Prop
  | plain {dialect : Dialect} (hdialect : Dialect.ofPath? path = some dialect)
      (hform : dialect.form? = none) : Yields d content path content
  | compiled {dialect : Dialect} {form : Form} {css : String}
      (hdialect : Dialect.ofPath? path = some dialect) (hform : dialect.form? = some form)
      (hcompile : (t.compiler.compile d content form path).2 = .ok css) :
      Yields d content path css

variable {t} in
theorem Yields.congr {d d' : Disk} {content path css : String} (h : t.Yields d content path css)
    (hcompile : t.compiler.compile d' = t.compiler.compile d) : t.Yields d' content path css := by
  cases h with
  | plain hdialect hform => exact .plain hdialect hform
  | compiled hdialect hform hcss => exact .compiled hdialect hform (hcompile ▸ hcss)

section Dialect

variable {t} {d : Disk} {content path css : String} {dialect : Dialect} {form : Form} {f : Failure}
  (hdialect : Dialect.ofPath? path = some dialect)
include hdialect

theorem yields_plain_iff (hform : dialect.form? = none) :
    t.Yields d content path css ↔ css = content := by
  refine ⟨fun h ↦ ?_, fun h ↦ h ▸ .plain hdialect hform⟩
  cases h with
  | plain => rfl
  | compiled hdialect' hform' =>
    cases Option.some.inj (hdialect.symm.trans hdialect')
    cases hform.symm.trans hform'

theorem yields_compiled_iff (hform : dialect.form? = some form) :
    t.Yields d content path css ↔ (t.compiler.compile d content form path).2 = .ok css := by
  refine ⟨fun h ↦ ?_, fun h ↦ .compiled hdialect hform h⟩
  cases h with
  | plain hdialect' hform' =>
    cases Option.some.inj (hdialect.symm.trans hdialect')
    cases hform.symm.trans hform'
  | compiled hdialect' hform' hcompile =>
    cases Option.some.inj (hdialect.symm.trans hdialect')
    cases Option.some.inj (hform.symm.trans hform')
    exact hcompile

/-- Names are not found where the stylesheet cannot be compiled, or its CSS cannot be parsed. -/
theorem namesOf_eq_error_iff : t.namesOf d content path = .error f ↔
    (∃ form fault, dialect.form? = some form ∧
      (t.compiler.compile d content form path).2 = .error fault ∧ f = .compile path fault) ∨
    ∃ css failure, t.Yields d content path css ∧ Css.parse css = .error failure ∧
      f = .parse path failure := by
  have hparse (css : String) : Generator.namesOf css path = .error f ↔
      ∃ failure, Css.parse css = .error failure ∧ f = .parse path failure := by
    unfold Generator.namesOf
    cases Css.parse css <;> simp [eq_comm]
  simp only [namesOf, hdialect]
  cases hform : dialect.form? with
  | none => simp [yields_plain_iff hdialect hform, hparse]
  | some form =>
    simp only [yields_compiled_iff hdialect hform, Option.some.injEq]
    cases hcompile : (t.compiler.compile d content form path).2 with
    | error fault => simp [hcompile, eq_comm]
    | ok css => simp [hcompile, hparse]

end Dialect

def formattedText (d : Disk) (text target : String) : String :=
  match t.formatter.format d text target with
  | .ok formatted => formatted
  | .error _ => text

def requestFor (d : Disk) (names : List String) (path : String) : WriteRequest :=
  .ofStylesheet path (t.formattedText d (Typings.render names) (Module.typingsPath path))

end Toolchain

namespace World

def targets (calls : List Call) : List String :=
  calls.filterMap fun
    | .submit r => some r.target
    | _ => none

def requests (calls : List Call) : List WriteRequest :=
  calls.filterMap fun
    | .submit r => some r
    | _ => none

theorem targets_eq_map (calls : List Call) : targets calls = (requests calls).map (·.target) := by
  rw [targets, requests, List.map_filterMap]
  congr 1
  funext c
  cases c <;> rfl

theorem requests_append (a b : List Call) : requests (a ++ b) = requests a ++ requests b :=
  List.filterMap_append

/-- A world after events and calls that submit nothing. -/
structure Noted (w w' : World) : Prop where
  eq : ∃ log calls, w' = { w with log, calls }
  requests_eq : requests w'.calls = requests w.calls

variable {w w' w'' : World} (t : Toolchain)

theorem Noted.refl (w : World) : Noted w w := ⟨⟨w.log, w.calls, rfl⟩, rfl⟩

theorem Noted.trans (h : Noted w w') (h' : Noted w' w'') : Noted w w'' := by
  obtain ⟨⟨log, calls, rfl⟩, ht⟩ := h
  obtain ⟨⟨log', calls', rfl⟩, ht'⟩ := h'
  exact ⟨⟨log', calls', rfl⟩, ht'.trans ht⟩

theorem Noted.targets_eq (h : Noted w w') : targets w'.calls = targets w.calls := by
  rw [targets_eq_map, targets_eq_map, h.requests_eq]

theorem Noted.disk_eq (h : Noted w w') : w'.disk = w.disk := by
  obtain ⟨_, _, rfl⟩ := h.eq
  rfl

theorem Noted.writer_eq (h : Noted w w') : w'.writer = w.writer := by
  obtain ⟨_, _, rfl⟩ := h.eq
  rfl

theorem Noted.schedule_eq (h : Noted w w') : w'.schedule = w.schedule := by
  obtain ⟨_, _, rfl⟩ := h.eq
  rfl

theorem noted_say (w : World) (e : Log.Event) : Noted w ((say e).run w).2 :=
  ⟨⟨_, _, rfl⟩, rfl⟩

theorem noted_note (w : World) {c : Call} (h : ∀ r, c ≠ .submit r) :
    Noted w ((note c).run w).2 := by
  refine ⟨⟨_, _, rfl⟩, ?_⟩
  cases c with
  | submit r => exact absurd rfl (h r)
  | compile | format => simp [run_note, requests]

theorem noted_forIn_say (w : World) (events : List Log.Event) :
    Noted w ((forIn events PUnit.unit fun e _ ↦ do
      say e
      pure (ForInStep.yield PUnit.unit) : App PUnit).run w).2 := by
  induction events generalizing w with
  | nil => exact .refl w
  | cons e events ih =>
    rw [List.forIn_cons]
    exact (noted_say w e).trans (ih _)

theorem run_compile (w : World) (source : String) (form : Form) (path : String) :
    ∃ w', (t.capabilities.compile source form path).run w =
      ((t.compiler.compile w.disk source form path).2, w') ∧ Noted w w' := by
  have hnote := noted_note w (c := .compile source form path) (by simp)
  exact ⟨_, rfl, hnote.trans (noted_forIn_say _ _)⟩

theorem run_format (w : World) (text target : String) :
    ∃ w', (t.capabilities.format text target).run w =
      (t.formatter.format w.disk text target, w') ∧ Noted w w' :=
  ⟨_, rfl, noted_note w (by simp)⟩

theorem run_extract (w : World) (content path : String) :
    ∃ w', (Generator.extract t.capabilities content path).run w =
      (t.namesOf w.disk content path, w') ∧ Noted w w' := by
  unfold Generator.extract Toolchain.namesOf
  cases Dialect.ofPath? path with
  | none => exact ⟨w, rfl, .refl w⟩
  | some dialect =>
    dsimp only
    cases dialect.form? with
    | none => exact ⟨w, rfl, .refl w⟩
    | some form =>
      obtain ⟨w', hrun, hnoted⟩ := run_compile t w content form path
      refine ⟨w', ?_, hnoted⟩
      dsimp only
      rw [run_bind, hrun]
      cases (t.compiler.compile w.disk content form path).2 <;> rfl

theorem run_formatted (w : World) (text target : String) :
    ∃ w', (Generator.formatted t.capabilities text target).run w =
      (t.formattedText w.disk text target, w') ∧ Noted w w' := by
  obtain ⟨w', hrun, hnoted⟩ := run_format t w text target
  unfold Generator.formatted Toolchain.formattedText
  rw [run_bind, hrun]
  cases t.formatter.format w.disk text target with
  | ok formatted => exact ⟨w', rfl, hnoted⟩
  | error fault => exact ⟨_, rfl, hnoted.trans (noted_say w' _)⟩

theorem run_submitTypings (w : World) (names : List String) (path : String) :
    ∃ w', (Generator.submitTypings t.capabilities names path).run w =
      (.submitted (Module.typingsPath path) names,
        ((t.capabilities.submit (t.requestFor w.disk names path)).run w').2) ∧ Noted w w' := by
  obtain ⟨w', hrun, hnoted⟩ := run_formatted t w (Typings.render names) (Module.typingsPath path)
  refine ⟨_, ?_, hnoted.trans (noted_say w' (.generated (Module.typingsPath path) names.length))⟩
  unfold Generator.submitTypings
  rw [run_bind, hrun]
  rfl

/-- Generating the typings of a module stylesheet submits the request for it, unless its names
cannot be found. -/
theorem run_generate (w : World) (content : String) {path : String}
    (hpath : Module.isModule path = true) :
    ∃ w', Noted w w' ∧ (Generator.generate t.capabilities content path).run w =
      match t.namesOf w.disk content path with
      | .error failure => (.error failure, w')
      | .ok names => (.ok (.submitted (Module.typingsPath path) names),
          ((t.capabilities.submit (t.requestFor w.disk names path)).run w').2) := by
  obtain ⟨w₁, hextract, hnoted⟩ := run_extract t w content path
  unfold Generator.generate
  rw [if_pos hpath, run_bind, hextract]
  cases t.namesOf w.disk content path with
  | error failure => exact ⟨w₁, hnoted, rfl⟩
  | ok names =>
    obtain ⟨w₂, hsubmit, hnoted'⟩ := run_submitTypings t w₁ names path
    refine ⟨w₂, hnoted.trans hnoted', ?_⟩
    dsimp only
    rw [run_bind, hsubmit, hnoted.disk_eq]
    rfl

/-- What a stylesheet holds was read, its names were found, and the request for them was
submitted. -/
def Submitted (t : Toolchain) (text : String) (w w' : World) : Prop :=
  ∃ content names noted, w.disk.readText (Text.encode text) = .ok content ∧
    t.namesOf w.disk content text = .ok names ∧ Noted w noted ∧
    w' = ((t.capabilities.submit (t.requestFor w.disk names text)).run noted).2

variable {t}

theorem run_submit_of_writer (w : World) (hs : t.sink = .writer) (r : WriteRequest) :
    (t.capabilities.submit r).run w =
      (submit r).run { w with calls := w.calls ++ [.submit r] } := by
  simp only [Toolchain.capabilities, run_bind, run_note, hs]

theorem calls_capability_submit (w : World) (r : WriteRequest) :
    ((t.capabilities.submit r).run w).2.calls = w.calls ++ [.submit r] := by
  simp only [Toolchain.capabilities, run_bind, run_note]
  cases t.sink with
  | writer => exact calls_submit _ r
  | output => exact (frame_printRequest _ r).2.2
  | nowhere => rfl

theorem requests_submit (w : World) (r : WriteRequest) :
    requests ((t.capabilities.submit r).run w).2.calls = requests w.calls ++ [r] := by
  rw [calls_capability_submit, requests_append]
  rfl

theorem targets_submit (w : World) (r : WriteRequest) :
    targets ((t.capabilities.submit r).run w).2.calls = targets w.calls ++ [r.target] := by
  rw [targets_eq_map, requests_submit, List.map_append, ← targets_eq_map]
  rfl

theorem Tame.submits {P : Disk → Prop} {Q : WriteRequest → Prop} (ho : Outlasts P Q)
    (h : Tame P Q w) {r : WriteRequest} (hr : t.sink = .writer → Q r) :
    Tame P Q ((t.capabilities.submit r).run w).2 := by
  simp only [Toolchain.capabilities, run_bind, run_note]
  have hnote : Tame P Q { w with calls := w.calls ++ [.submit r] } := ⟨h.disk, h.queue⟩
  cases hs : t.sink with
  | writer => exact hnote.submit ho (hr hs)
  | output =>
    obtain ⟨hd, hw, -⟩ := frame_printRequest { w with calls := w.calls ++ [.submit r] } r
    exact hnote.congr hd hw
  | nowhere => exact hnote

theorem Noted.tame {P : Disk → Prop} {Q : WriteRequest → Prop} (h : Noted w w') (ht : Tame P Q w) :
    Tame P Q w' :=
  ht.congr h.disk_eq h.writer_eq

end World
end StyleTypings
