import StyleTypings.Proofs.World.Effects

namespace StyleTypings.World

open Text (encode)

def Outlasts (P : Disk → Prop) (Q : WriteRequest → Prop) : Prop :=
  ∀ d r d', P d → Q r → d.write (encode r.target) (encode r.contents) = .ok d' → P d'

/-- The disk has a property, and the requests that wait are admitted. -/
structure Tame (P : Disk → Prop) (Q : WriteRequest → Prop) (w : World) : Prop where
  disk : P w.disk
  queue (r : WriteRequest) : r ∈ w.writer.queue → Q r

variable {P : Disk → Prop} {Q : WriteRequest → Prop} {w : World}

theorem Tame.congr {w' : World} (h : Tame P Q w) (hd : w'.disk = w.disk)
    (hw : w'.writer = w.writer) : Tame P Q w' :=
  ⟨hd ▸ h.disk, hw ▸ h.queue⟩

section Outlasts

variable (ho : Outlasts P Q)
include ho

theorem Tame.work (h : Tame P Q w) : Tame P Q (work.run w).2 := by
  cases hn : w.writer.next? with
  | none =>
    rw [run_work_of_none w hn]
    exact h
  | some next =>
    obtain ⟨r, writer⟩ := next
    rw [run_work_of_some w hn]
    have hq := (Writer.next?_eq_some_iff.1 hn).2.1
    have hr : Q r := h.queue r (hq ▸ List.mem_cons_self ..)
    have hrest : ∀ r ∈ writer.queue, Q r := fun r hm ↦ h.queue r (hq ▸ List.mem_cons_of_mem _ hm)
    unfold attempt
    split
    next disk hw => exact ⟨ho _ _ _ h.disk hr hw, hrest⟩
    next =>
      split
      · exact ⟨h.disk, by simp [Writer.die]⟩
      · exact ⟨h.disk, hrest⟩

theorem Tame.pause (h : Tame P Q w) : Tame P Q (pause.run w).2 :=
  pause_invariant (fun _ h ↦ h.work ho) (fun _ _ h ↦ ⟨h.disk, h.queue⟩) h

theorem Tame.submit (h : Tame P Q w) {r : WriteRequest} (hr : Q r) :
    Tame P Q ((submit r).run w).2 := by
  cases hw : w.writer.submit? r with
  | some writer =>
    rw [run_submit_of_some w hw]
    obtain ⟨-, -, rfl⟩ := Writer.submit?_eq_some_iff.1 hw
    refine Tame.pause ho ⟨h.disk, fun other hm ↦ ?_⟩
    rcases List.mem_append.1 hm with hm | hm
    · exact h.queue other hm
    · exact List.mem_singleton.1 hm ▸ hr
  | none =>
    rw [run_submit_of_none w hw, run_report]
    split
    · exact ⟨h.disk, h.queue⟩
    · exact ⟨h.disk, h.queue⟩

end Outlasts

theorem calls_work (w : World) : (work.run w).2.calls = w.calls := by
  cases hn : w.writer.next? with
  | none => rw [run_work_of_none w hn]
  | some next =>
    rw [run_work_of_some w hn]
    unfold attempt
    split
    · rfl
    · split <;> rfl

theorem calls_workFor (w : World) (n : Nat) : ((workFor n).run w).2.calls = w.calls :=
  workFor_invariant (I := (·.calls = w.calls)) (fun w' h ↦ (calls_work w').trans h) rfl n

theorem calls_pause (w : World) : (pause.run w).2.calls = w.calls :=
  pause_invariant (I := (·.calls = w.calls)) (fun w' h ↦ (calls_work w').trans h)
    (fun _ _ h ↦ h) rfl

theorem calls_submit (w : World) (r : WriteRequest) : ((submit r).run w).2.calls = w.calls := by
  cases hw : w.writer.submit? r with
  | some writer =>
    rw [run_submit_of_some w hw]
    exact calls_pause { w with writer }
  | none =>
    rw [run_submit_of_none w hw, run_report]
    split <;> rfl

end StyleTypings.World
