import Mathlib
import StyleTypings.Proofs.Path.Ending
import StyleTypings.World

namespace StyleTypings

variable {α σ τ : Type}

def notingCalls (calls : List Call) (x : StateM σ α) : StateM (σ × List Call) α :=
  fun (s, before) ↦ ((x.run s).1, (x.run s).2, before ++ calls)

def Capabilities.noting (c : Capabilities (StateM σ)) : Capabilities (StateM (σ × List Call)) where
  compile source form path :=
    notingCalls [.compile source form path] (c.compile source form path)
  format text target := notingCalls [.format text target] (c.format text target)
  submit r := notingCalls [.submit r] (c.submit r)
  log e := notingCalls [] (c.log e)

def Dialect.compileCalls (content path : String) : Dialect → List Call
  | .css => []
  | .scss => [.compile content .scss path]
  | .sass => [.compile content .indented path]

def Outcome.moved (path : String) : Except Failure Outcome → Except Failure Outcome
  | .ok (.submitted _ names) => .ok (.submitted (Module.typingsPath path) names)
  | .error (.parse _ failure) => .error (.parse path failure)
  | answer => answer

namespace Generator

variable {c : Capabilities (StateM σ)} {c' : Capabilities (StateM τ)} {content path : String}
  {d : Dialect} {s : σ} {s' : τ}

def compiled (c : Capabilities (StateM σ)) (d : Dialect) (content path : String) :
    StateM σ (Except Tool.Fault String) :=
  match d.form? with
  | none => return .ok content
  | some form => c.compile content form path

def namesOfCompiled (path : String) : Except Tool.Fault String → Except Failure (List String)
  | .error fault => .error (.compile path fault)
  | .ok css => namesOf css path

theorem run_bind {β : Type} (x : StateM σ α) (f : α → StateM σ β) (s : σ) :
    (x >>= f).run s = (f (x.run s).1).run (x.run s).2 := rfl

theorem run_extract (h : Dialect.ofPath? path = some d) (s : σ) :
    (extract c content path).run s =
      (namesOfCompiled path ((compiled c d content path).run s).1,
        ((compiled c d content path).run s).2) := by
  simp only [extract, h, compiled]
  cases d.form? with
  | none => rfl
  | some form =>
    simp only [run_bind]
    cases ((c.compile content form path).run s).1 <;> rfl

theorem run_formatted (text target : String) (s : σ) :
    ((formatted c text target).run s).1 =
      ((c.format text target).run s).1.toOption.getD text := by
  simp only [formatted, run_bind]
  cases ((c.format text target).run s).1 <;> rfl

variable {calls : List Call}

theorem run_compiled_noting :
    (compiled c.noting d content path).run (s, calls) =
      (((compiled c d content path).run s).1, ((compiled c d content path).run s).2,
        calls ++ d.compileCalls content path) := by
  cases d with
  | css => exact Prod.ext rfl (Prod.ext rfl (List.append_nil calls).symm)
  | scss | sass => rfl

theorem run_formatted_noting (text target : String) :
    (formatted c.noting text target).run (s, calls) =
      (((formatted c text target).run s).1, ((formatted c text target).run s).2,
        calls ++ [.format text target]) := by
  have hrun : (c.noting.format text target).run (s, calls) =
      (((c.format text target).run s).1, ((c.format text target).run s).2,
        calls ++ [.format text target]) := rfl
  simp only [formatted, run_bind, hrun]
  cases ((c.format text target).run s).1 with
  | ok formatted => rfl
  | error fault =>
    refine Prod.ext rfl (Prod.ext rfl ?_)
    exact List.append_nil _

theorem run_submitTypings_noting (names : List String) :
    (submitTypings c.noting names path).run (s, calls) =
      (((submitTypings c names path).run s).1, ((submitTypings c names path).run s).2,
        calls ++ [.format (Typings.render names) (Module.typingsPath path),
          .submit ⟨Module.typingsPath path,
            ((formatted c (Typings.render names) (Module.typingsPath path)).run s).1⟩]) := by
  unfold submitTypings
  simp only [run_bind, run_formatted_noting]
  refine Prod.ext rfl (Prod.ext rfl ?_)
  simp [Capabilities.noting, notingCalls, StateT.run, pure, StateT.pure]

variable (c content) in
theorem run_generate (hmodule : Module.isModule path = true) (h : Dialect.ofPath? path = some d)
    (s : σ) :
    (generate c content path).run s =
      match (extract c content path).run s with
      | (.error f, s₁) => (.error f, s₁)
      | (.ok names, s₁) => (.ok ((submitTypings c names path).run s₁).1,
          ((submitTypings c names path).run s₁).2) := by
  unfold generate
  rw [if_pos hmodule, run_bind, run_extract h]
  cases namesOfCompiled path ((compiled c d content path).run s).1 <;> rfl

theorem answer_generate (hmodule : Module.isModule path = true) (h : Dialect.ofPath? path = some d)
    (s : σ) :
    ((generate c content path).run s).1 =
      (namesOfCompiled path ((compiled c d content path).run s).1).map
        (.submitted (Module.typingsPath path)) := by
  rw [run_generate _ _ hmodule h, run_extract h]
  cases namesOfCompiled path ((compiled c d content path).run s).1 <;> rfl

variable (c content) in
theorem run_generate_of_not_module (h : Module.isModule path = false) (s : σ) :
    (generate c content path).run s = (.ok .skipped, ((c.log (.notModule path)).run s).2) := by
  unfold generate
  rw [if_neg (by simp [h])]
  rfl

/-- What generating typings calls beside the compiler, once the names are found. -/
def submitCalls (c : Capabilities (StateM σ)) (path : String) :
    Except Failure (List String) × σ → List Call
  | (.error _, _) => []
  | (.ok names, s) =>
    let target := Module.typingsPath path
    let text := Typings.render names
    [.format text target, .submit ⟨target, ((c.format text target).run s).1.toOption.getD text⟩]

theorem run_generate_noting (hmodule : Module.isModule path = true)
    (h : Dialect.ofPath? path = some d) :
    (generate c.noting content path).run (s, calls) =
      (((generate c content path).run s).1, ((generate c content path).run s).2,
        calls ++ d.compileCalls content path ++
          submitCalls c path ((extract c content path).run s)) := by
  rw [run_generate _ _ hmodule h, run_generate _ _ hmodule h, run_extract h, run_extract h,
    run_compiled_noting]
  cases namesOfCompiled path ((compiled c d content path).run s).1 with
  | error f => simp [submitCalls]
  | ok names => simp [submitCalls, run_submitTypings_noting, run_formatted]

theorem extract_failure (h : Dialect.ofPath? path = some d) {f : Failure}
    (hf : ((extract c content path).run s).1 = .error f) :
    (∃ fault, f = .compile path fault) ∨ ∃ failure, f = .parse path failure := by
  rw [run_extract h] at hf
  cases hcss : ((compiled c d content path).run s).1 with
  | error fault =>
    rw [hcss] at hf
    exact .inl ⟨fault, (Except.error.inj hf).symm⟩
  | ok css =>
    simp only [hcss, namesOfCompiled, namesOf] at hf
    cases hparse : Css.parse css with
    | error failure =>
      rw [hparse] at hf
      exact .inr ⟨failure, (Except.error.inj hf).symm⟩
    | ok rules =>
      rw [hparse] at hf
      cases hf

theorem compiled_congr (h : ∀ form, ((c'.compile content form path).run s').1 =
      ((c.compile content form path).run s).1) :
    ((compiled c' d content path).run s').1 = ((compiled c d content path).run s).1 := by
  unfold compiled
  cases d.form? with
  | none => rfl
  | some form => exact h form

theorem moved_namesOf (css path other : String) :
    Outcome.moved path ((namesOf css other).map (.submitted (Module.typingsPath other))) =
      (namesOf css path).map (.submitted (Module.typingsPath path)) := by
  unfold namesOf
  cases Css.parse css <;> rfl

/-- Generating typings is all or nothing. A path without the ending of a module stylesheet is
skipped, whatever the content, and nothing is called. For a module stylesheet the compiler is called
as its language asks; where that or parsing fails nothing else is called, and where both succeed the
formatter is called once, and one request is submitted, whatever the formatter answers. The answer
is a function of what the compiler answers, and it is that for a plain stylesheet of the compiled
text, but for the path. -/
theorem generate_all_or_nothing (c : Capabilities (StateM σ)) (content path : String) (s : σ) :
    ∃ calls, (generate c.noting content path).run (s, []) =
        (((generate c content path).run s).1, ((generate c content path).run s).2, calls) ∧
      (Module.isModule path = false → calls = [] ∧
        (generate c content path).run s = (.ok .skipped, ((c.log (.notModule path)).run s).2)) ∧
      (∀ d stem, path = String.ofList (stem ++ Module.ending d) →
        match (extract c content path).run s with
        | (.error f, _) =>
          ((∃ fault, f = .compile path fault) ∨ ∃ failure, f = .parse path failure) ∧
            ((generate c content path).run s).1 = .error f ∧ calls = d.compileCalls content path
        | (.ok names, s₁) =>
          let target := Module.typingsPath path
          let text := Typings.render names
          ((generate c content path).run s).1 = .ok (.submitted target names) ∧
            calls = d.compileCalls content path ++ [.format text target,
              .submit ⟨target, ((c.format text target).run s₁).1.toOption.getD text⟩]) ∧
      (∀ (τ : Type) (c' : Capabilities (StateM τ)) (s' : τ),
        (∀ form, ((c'.compile content form path).run s').1 =
          ((c.compile content form path).run s).1) →
        ((generate c' content path).run s').1 = ((generate c content path).run s).1) ∧
      ∀ d stem form css, path = String.ofList (stem ++ Module.ending d) → d.form? = some form →
        ((c.compile content form path).run s).1 = .ok css →
        ∀ (τ : Type) (c' : Capabilities (StateM τ)) (s' : τ) (plain : List Char),
          ((generate c content path).run s).1 = Outcome.moved path
            ((generate c' css (String.ofList (plain ++ Module.ending .css))).run s').1 := by
  cases hmodule : Module.isModule path with
  | false =>
    have hrun := run_generate_of_not_module c content hmodule s
    have hnone : ∀ {d stem}, path ≠ String.ofList (stem ++ Module.ending d) := by
      rintro d stem rfl
      rw [Module.isModule_ending] at hmodule
      cases hmodule
    refine ⟨[], ?_, fun _ ↦ ⟨rfl, hrun⟩, fun d stem h ↦ absurd h hnone, fun τ c' s' _ ↦ ?_,
      fun d stem form css h ↦ absurd h hnone⟩
    · rw [run_generate_of_not_module _ _ hmodule, hrun]
      rfl
    · rw [run_generate_of_not_module _ _ hmodule, hrun]
  | true =>
    obtain ⟨d, stem, hpath⟩ := Module.exists_of_isModule hmodule
    have hdialect : Dialect.ofPath? path = some d := hpath ▸ Module.ofPath?_ending stem d
    have honly : ∀ {d' stem'}, path = String.ofList (stem' ++ Module.ending d') → d' = d := by
      rintro d' stem' rfl
      rw [Module.ofPath?_ending] at hdialect
      exact Option.some.inj hdialect
    refine ⟨_, run_generate_noting hmodule hdialect, by simp, fun d' stem' h ↦ ?_,
      fun τ c' s' hcompile ↦ ?_, fun d' stem' form css h hform hcss τ c' s' plain ↦ ?_⟩
    · obtain rfl := honly h
      have hrun := run_generate c content hmodule hdialect s
      have hfails : ∀ f, ((extract c content path).run s).1 = .error f →
          (∃ fault, f = .compile path fault) ∨ ∃ failure, f = .parse path failure :=
        fun f ↦ extract_failure hdialect
      revert hrun hfails
      rcases (extract c content path).run s with ⟨_ | names, s₁⟩
      · exact fun hrun hfails ↦ ⟨hfails _ rfl, by rw [hrun], by simp [submitCalls]⟩
      · exact fun hrun _ ↦ ⟨by rw [hrun]; rfl, by simp [submitCalls]⟩
    · rw [answer_generate hmodule hdialect, answer_generate hmodule hdialect,
        compiled_congr hcompile]
    · obtain rfl := honly h
      have hcompiled : ((compiled c d' content path).run s).1 = .ok css := by
        simp only [compiled, hform, hcss]
      rw [answer_generate hmodule hdialect,
        answer_generate (Module.isModule_ending plain .css) (Module.ofPath?_ending plain .css),
        hcompiled]
      exact (moved_namesOf css path _).symm

/-- Tools whose compiler works every other time and whose formatter never does. -/
def fickleTools : Capabilities (StateM Nat) where
  compile _ _ _ :=
    modifyGet fun n ↦ (if n % 2 = 0 then .ok ".b\x7b\x7d" else .error .notFound, n + 1)
  format _ _ := return .error .notFound
  submit _ := modify (· + 1)
  log _ := return ()

/-- The compiled text goes through, unformatted, as it does from a plain stylesheet. -/
theorem generate_all_or_nothing_fickle :
    (∃ n, (generate fickleTools.noting "b" "x.module.sass").run (0, []) =
      (.ok (.submitted "x.module.sass.d.ts" ["b"]), n,
        [.compile "b" .indented "x.module.sass",
          .format (Typings.render ["b"]) "x.module.sass.d.ts",
          .submit ⟨"x.module.sass.d.ts", Typings.render ["b"]⟩])) ∧
      .ok (.submitted "x.module.sass.d.ts" ["b"]) = Outcome.moved "x.module.sass"
        ((generate fickleTools ".b\x7b\x7d" "y.module.css").run 1).1 := by
  have hpath : "x.module.sass" = String.ofList (['x'] ++ Module.ending .sass) := by decide +kernel
  have hplain : String.ofList (['y'] ++ Module.ending .css) = "y.module.css" := by decide +kernel
  have hextract : (extract fickleTools "b" "x.module.sass").run 0 = (.ok ["b"], 1) := by cbv
  obtain ⟨calls, hrun, -, hcalls, -, hmoved⟩ :=
    generate_all_or_nothing fickleTools "b" "x.module.sass" 0
  have hcalls := hcalls .sass ['x'] hpath
  have hmoved := hmoved .sass ['x'] .indented ".b\x7b\x7d" hpath rfl rfl Nat fickleTools 1 ['y']
  rw [hextract] at hcalls
  rw [hplain] at hmoved
  exact ⟨⟨_, by rw [hrun, hcalls.1, hcalls.2]; rfl⟩, hcalls.1 ▸ hmoved⟩

end Generator
end StyleTypings
