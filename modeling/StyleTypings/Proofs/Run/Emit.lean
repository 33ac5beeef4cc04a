import StyleTypings.Proofs.Run.Plan
import StyleTypings.Proofs.Text.Blank
import StyleTypings.Proofs.Walk.Shown

namespace StyleTypings.Run

open Disk (Node)
open Text (encode)
open Walk (Prints Scene Task shown stillFrom)
open Watch (NoLinks sheet sheetDisk writingTools)
open World (requests run_bind)

variable {a : Arguments} {d : Disk} {w : World} {out : String} {full : Bool}

theorem Fresh.shows (h : Fresh w) (root : String) :
    Scene.Shows (Scene.begin w.disk root) w where
  disk_eq := rfl
  queue_eq := by rw [h.writer]; rfl
  requests_eq := by rw [h.calls]; rfl
  taking_eq := by rw [h.writer]
  alive := by rw [h.writer]
  calm := h.calm

def closing (milliseconds : Nat) : Except Failed Done → String
  | .ok done =>
    summaryLine done.summary.generated.length done.summary.excluded.length milliseconds ++ "\n"
  | .error _ => ""

theorem run_announce (hemit : a.emit = false) (hwatch : a.watch = false) (milliseconds : Nat)
    (done : Done) (w : World) : (announce a milliseconds done).run w =
      if (World.finish.run w).2.outputFull then
        (.error (.output .noSpace), (World.finish.run w).2)
      else (.ok done, { (World.finish.run w).2 with
        output := (World.finish.run w).2.output ++ closing milliseconds (.ok done) }) := by
  simp only [announce, hwatch, hemit, Bool.false_eq_true, if_false]
  rw [run_bind]
  generalize (World.finish.run w).2 = finished
  rw [run_bind]
  by_cases hfull : finished.outputFull = true
  · rw [World.run_print_of_full hfull, if_pos hfull]
    rfl
  · rw [World.run_print_of_not_full (Bool.eq_false_iff.2 hfull), if_neg hfull]
    rfl

theorem gain_sheet (hread : d.readText (encode sheet) = .ok ".b\x7b\x7d") :
    (Task.visit (encode sheet) .file).gain writingTools none d =
      .ok { summary := ⟨["/s/a.module.css.d.ts"], []⟩
            request? := some (writingTools.requestFor d ["b"] sheet) } := by
  have hsheet : Walk.stylesheet? (encode sheet) = some sheet :=
    Walk.stylesheet?_eq_some_iff.2 ⟨Text.decode?_eq_some_iff.2 rfl, by decide +kernel⟩
  simp only [Task.gain, hsheet]
  exact Walk.sheetGain_eq_ok_iff.2 ⟨_, _, hread, Watch.namesOf_sheet _, rfl⟩

end StyleTypings.Run
