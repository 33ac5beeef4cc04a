import StyleTypings.Proofs.Css.NamedRules
import StyleTypings.Proofs.Path.Ending
import StyleTypings.Proofs.Typings.RoundTrip
import StyleTypings.Proofs.World.Generation

namespace StyleTypings

open Css World

def Formatter.Keeps (f : Formatter) (d : Disk) : Prop :=
  ∀ text target, f.format d text target = .ok text

theorem Toolchain.requestFor_of_keeps {t : Toolchain} {d : Disk} (h : t.formatter.Keeps d)
    (names : List String) (path : String) :
    t.requestFor d names path = ⟨Module.typingsPath path, Typings.render names⟩ := by
  rw [requestFor, formattedText, h]
  rfl

theorem Toolchain.namesOf_sheet (t : Toolchain) (d : Disk) (rules : List NamedRule) {path : String}
    (h : Dialect.ofPath? path = some .css) :
    t.namesOf d (NamedRule.sheet rules) path = .ok (rules.map (·.name)).eraseDups := by
  rw [namesOf, h]
  simp only [Dialect.form?, Generator.namesOf, NamedRule.parse_sheet, NamedRule.names_rules]

/-- The typings of a stylesheet that has one rule for each of some names have one key for each
distinct name, in the order in which the names come first, whatever characters they hold. -/
theorem generate_sheet (t : Toolchain) (w : World) (rules : List NamedRule) (stem : String)
    (hformat : t.formatter.Keeps w.disk) :
    ∃ contents w', (Generator.generate t.capabilities (NamedRule.sheet rules)
        (stem ++ ".module.css")).run w =
        (.ok (.submitted (stem ++ ".module.css.d.ts") (rules.map (·.name)).eraseDups), w') ∧
      requests w'.calls = requests w.calls ++ [⟨stem ++ ".module.css.d.ts", contents⟩] ∧
      Typings.read contents = some (rules.map (·.name)).eraseDups := by
  have hpath : stem ++ ".module.css" = String.ofList (stem.toList ++ Module.ending .css) := by
    rw [String.ofList_append, String.ofList_toList]
    rfl
  have htarget : Module.typingsPath (stem ++ ".module.css") = stem ++ ".module.css.d.ts" := by
    rw [Module.typingsPath, String.append_assoc]
    rfl
  have hmodule := Module.isModule_ending stem.toList .css
  have hdialect := Module.ofPath?_ending stem.toList .css
  rw [← hpath] at hmodule hdialect
  obtain ⟨noted, hnoted, hrun⟩ := run_generate t w (NamedRule.sheet rules) hmodule
  rw [t.namesOf_sheet w.disk rules hdialect] at hrun
  dsimp only at hrun
  rw [Toolchain.requestFor_of_keeps hformat, htarget] at hrun
  exact ⟨_, _, hrun, by rw [requests_submit, hnoted.requests_eq], Typings.read_eq_some_iff.2 rfl⟩

def oddRules : List NamedRule := [
  ⟨.cls, "1'\\\n", "", by decide, by decide, by simp⟩,
  ⟨.id, "-", "", by decide, by decide, by simp⟩,
  ⟨.id, "1'\\\n", "\n", by decide, by decide, by simp [Css.isSpace, Css.isNewline]⟩]

example : NamedRule.sheet oddRules =
    ".\\31 \\'\\\\\\a  \x7b\x7d#\\- \x7b\x7d#\\31 \\'\\\\\\a  \x7b\x7d\n" := by decide +kernel

theorem generate_sheet_odd : ∃ contents w',
    (Generator.generate (Toolchain.capabilities ⟨.unavailable, .passthrough, .output⟩)
      (NamedRule.sheet oddRules) "odd.module.css").run {} =
        (.ok (.submitted "odd.module.css.d.ts" ["1'\\\n", "-"]), w') ∧
      requests w'.calls = [⟨"odd.module.css.d.ts", contents⟩] ∧
      Typings.read contents = some ["1'\\\n", "-"] :=
  generate_sheet ⟨.unavailable, .passthrough, .output⟩ {} oddRules "odd" fun _ _ ↦ rfl

end StyleTypings
