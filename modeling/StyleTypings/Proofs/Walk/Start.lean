import StyleTypings.Proofs.Walk.Visits

namespace StyleTypings.Walk

open Disk (Location Name Node)
open Text (encode)

variable {t : Toolchain} {e : Exclusion} {d : Disk} {root : String} {n : Node}

theorem exists_lookup_of_node {path : Text.Bytes} {followLast : Bool}
    (h : d.node path followLast = .ok n) :
    ∃ top, d.lookup path followLast = .ok (.found top n) := by
  unfold Disk.node at h
  split at h
  next top m hl =>
    cases h
    exact ⟨top, hl⟩
  · cases h
  · cases h

theorem start_of_node {path : Text.Bytes} (h : d.node path false = .ok n) (hlink : n.kind ≠ .link) :
    start d path = .ok [.visit path n.kind] := by
  unfold start
  rw [h]
  cases n with
  | link target => exact absurd rfl hlink
  | file _ _ | dir _ => rfl

theorem exists_ground {path : Text.Bytes} (hwf : d.top.WellFormed)
    (h : d.node path false = .ok n) (hlink : n.kind ≠ .link) :
    ∃ top, Ground d path top n ∧ weight (some n) ≤ taskBound d := by
  obtain ⟨top, hl⟩ := exists_lookup_of_node h
  obtain ⟨hfollowable, hleads⟩ := Disk.lookup_eq_ok_iff.1 hl
  refine ⟨top, ⟨hwf, Disk.lookup_eq_ok_iff.2 ⟨hfollowable, hleads.followLast_true hlink⟩⟩, ?_⟩
  have := size_le_of_at? hleads.at?_eq
  simp only [weight, taskBound]
  omega

theorem run_fromDirectory {w : World} {tasks : List Task}
    (h : start w.disk (encode root) = .ok tasks) :
    (fromDirectory t e root).run w = (run t e (taskBound w.disk) ⟨tasks, {}⟩).run w := by
  unfold fromDirectory
  simp only [World.run_bind, World.run_get, h]

end StyleTypings.Walk
