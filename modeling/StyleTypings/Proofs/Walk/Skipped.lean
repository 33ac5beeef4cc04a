import StyleTypings.Proofs.Path.Ancestors
import StyleTypings.Proofs.Walk.Exact
import StyleTypings.Proofs.Walk.Start

namespace StyleTypings.Walk

open Disk (Node)
open Text (encode)

variable {t : Toolchain} {e : Exclusion}

/-- A walk from an excluded directory tells of the directory and does nothing else; a watcher passes
over every path that has the directory among those it lies in. -/
theorem fromDirectory_excluded_root {root : String} {w : World}
    {es : List (Disk.Name × Node)} (hnode : w.disk.node (encode root) false = .ok (.dir es))
    (he : e.excludes root = true) :
    (fromDirectory t e root).run w =
        (.ok ⟨[], [root]⟩, { w with log := w.log ++ [(.main, .directoryExcluded root)] }) ∧
      ∀ path, root ∈ Path.ancestors path → e.coversAncestor path root = true := by
  constructor
  · have hlossy : Text.lossy (encode root) = root := by
      rw [Text.lossy, Text.decode?_eq_some_iff.2 rfl]
    have hstep : (step t e ⟨[.visit (encode root) .dir], {}⟩).run w =
        (.ok ⟨[], ⟨[], [root]⟩⟩,
          { w with log := w.log ++ [(.main, .directoryExcluded root)] }) := by
      simp only [step, hlossy, he, if_true]
      rfl
    have hbound : taskBound w.disk = 4 * w.disk.top.size + 3 + 1 := rfl
    rw [run_fromDirectory (start_of_node hnode (by simp [Node.kind])), hbound]
    exact run_cons hstep
  · intro path hpath
    exact Exclusion.coversAncestor_iff_exists.2 ⟨root, hpath, Path.startsWith_self root, he⟩

def linkedDisk : Disk where
  top := .dir [([115], .dir [(encode "a.module.css", .file [] false)]), ([108], .link [115])]

theorem fromDirectory_excluded_root_plain :
    (fromDirectory smallTools (some (· == "s")) "s").run { disk := linkedDisk } =
        (.ok ⟨[], ["s"]⟩, { disk := linkedDisk, log := [(.main, .directoryExcluded "s")] }) ∧
      Exclusion.coversAncestor (some (· == "s")) "s/a.module.css" "s" = true := by
  have hnode : linkedDisk.node (encode "s") false =
      .ok (.dir [(encode "a.module.css", .file [] false)]) := by cbv
  obtain ⟨hrun, hcovers⟩ := fromDirectory_excluded_root (t := smallTools) (e := some (· == "s"))
    (w := { disk := linkedDisk }) hnode (by decide)
  exact ⟨hrun, hcovers "s/a.module.css" (by decide +kernel)⟩

theorem fromDirectory_not_skipped :
    linkedDisk.node (encode "l") true = .ok (.dir [(encode "a.module.css", .file [] false)]) ∧
    Exclusion.excludes (some (· == "l")) "l" = true ∧
    Exclusion.coversAncestor (some (· == "l")) "l/a.module.css" "l" = true ∧
    ∃ w', (fromDirectory smallTools (some (· == "l")) "l").run { disk := linkedDisk } =
      (.ok ⟨["l/a.module.css.d.ts"], []⟩, w') := by
  refine ⟨by cbv, by decide, by decide +kernel, ?_⟩
  have hmodule : Module.isModule "l/a.module.css" = true := by decide +kernel
  have hread : linkedDisk.readText (encode "l/a.module.css") = .ok "" := by cbv
  have hnames : smallTools.namesOf linkedDisk "" "l/a.module.css" = .ok [] := by cbv
  obtain ⟨w', hvisit⟩ : ∃ w', (visitFile smallTools (encode "l/a.module.css")).run
      { disk := linkedDisk } = (.ok (some "l/a.module.css.d.ts"), w') := by
    obtain ⟨noted, -, hvisit⟩ := exists_run_visitFile (t := smallTools)
      (w := { disk := linkedDisk }) hmodule rfl hread hnames
    exact ⟨_, hvisit⟩
  have hstart : start linkedDisk (encode "l") =
      .ok [.visit (encode "l") .link, .enter (encode "l")] := by cbv
  have hlink : (step smallTools (some (· == "l"))
      ⟨[.visit (encode "l") .link, .enter (encode "l")], {}⟩).run { disk := linkedDisk } =
        (.ok ⟨[.enter (encode "l")], {}⟩, { disk := linkedDisk }) := by
    have hplain : Module.isModule "l" = false := by decide +kernel
    simp only [step, visitFile, Text.decode?_eq_some_iff.2 rfl, hplain]
    rfl
  have henter : (step smallTools (some (· == "l")) ⟨[.enter (encode "l")], {}⟩).run
      { disk := linkedDisk } =
        (.ok ⟨[.visit (encode "l/a.module.css") .file], {}⟩, { disk := linkedDisk }) := by cbv
  have hfile : (step smallTools (some (· == "l"))
      ⟨[.visit (encode "l/a.module.css") .file], {}⟩).run { disk := linkedDisk } =
        (.ok ⟨[], ⟨["l/a.module.css.d.ts"], []⟩⟩, w') := by
    simp only [step, World.run_bind, hvisit]
    rfl
  have hbound : taskBound linkedDisk = 20 := by cbv
  refine ⟨w', ?_⟩
  rw [run_fromDirectory hstart]
  dsimp only
  rw [hbound, run_cons hlink, run_cons henter, run_cons hfile]
  rfl

end StyleTypings.Walk
