import StyleTypings.Proofs.Disk.Erasing
import StyleTypings.Proofs.World.Promise

namespace StyleTypings.World

open Text (encode)

variable {target : String} {w : World}

/-- A writer that takes requests, unless it has died, and then it has nothing left. -/
structure Serving (w : World) : Prop where
  taking : w.writer.taking = true
  idle : w.writer.alive = false → w.writer.queue = []

theorem Serving.congr {w' : World} (h : Serving w) (hw : w'.writer = w.writer) : Serving w' :=
  ⟨hw ▸ h.taking, hw ▸ h.idle⟩

theorem Serving.work (h : Serving w) : Serving (work.run w).2 := by
  refine ⟨(taking_work w).trans h.taking, ?_⟩
  cases hn : w.writer.next? with
  | none =>
    rw [run_work_of_none w hn]
    exact h.idle
  | some next =>
    obtain ⟨r, writer⟩ := next
    obtain ⟨halive, -, hwriter⟩ := Writer.next?_eq_some_iff.1 hn
    have hlives : writer.alive = true := by rw [hwriter, halive]
    rw [run_work_of_some w hn]
    unfold attempt
    split
    · simp [hlives]
    · split
      · exact fun _ ↦ rfl
      · simp [hlives]

theorem Serving.pause (h : Serving w) : Serving (pause.run w).2 :=
  pause_invariant (fun _ h ↦ h.work) (fun _ _ h ↦ h.congr rfl) h

theorem Serving.submit (h : Serving w) (r : WriteRequest) : Serving ((submit r).run w).2 := by
  cases hw : w.writer.submit? r with
  | some writer =>
    rw [run_submit_of_some w hw]
    obtain ⟨-, halive, rfl⟩ := Writer.submit?_eq_some_iff.1 hw
    exact Serving.pause ⟨h.taking, by simp [halive]⟩
  | none =>
    rw [run_submit_of_none w hw, run_report]
    split
    · exact h.congr rfl
    · exact h.congr rfl

theorem work_of_cons {r : WriteRequest} {rest : List WriteRequest} {disk : Disk}
    (hwriter : w.writer = { queue := r :: rest })
    (hwrite : w.disk.write (encode r.target) (encode r.contents) = .ok disk) :
    (work.run w).2.disk = disk ∧ (work.run w).2.writer = { queue := rest } := by
  have hnext : w.writer.next? = some (r, { queue := rest }) :=
    Writer.next?_eq_some_iff.2 ⟨by rw [hwriter], by rw [hwriter], by rw [hwriter]⟩
  rw [run_work_of_some _ hnext, attempt, hwrite]
  exact ⟨rfl, rfl⟩

theorem exists_lastFor? {queue : List WriteRequest} (h : ∃ r ∈ queue, r.target = target) :
    ∃ contents, lastFor? target queue = some contents := by
  obtain ⟨r, hr, rfl⟩ := h
  have hne : queue.filter (·.target == r.target) ≠ [] :=
    List.ne_nil_of_mem (List.mem_filter.2 ⟨hr, beq_self_eq_true _⟩)
  exact ⟨_, by rw [lastFor?, List.getLast?_eq_some_getLast hne, Option.map_some]⟩

theorem promised_of_disturbs {disk : Disk} {path : Text.Bytes} {spot : Disk.Location}
    (hspot : w.disk.spot? path = some spot) (hd : Disk.Disturbs w.disk disk spot)
    (h : ¬(w.disk.spot? (encode target) = w.disk.spot? path ∧
      ∀ r ∈ w.writer.queue, r.target ≠ target)) :
    promised { w with disk } target = promised w target := by
  by_cases hhere : w.disk.spot? (encode target) = w.disk.spot? path
  · have hwaits : ∃ r ∈ w.writer.queue, r.target = target := by simpa [hhere] using h
    obtain ⟨contents, hlast⟩ := exists_lastFor? hwaits
    simp [promised, hlast]
  · simp only [promised, hd.text?_other fun h ↦ hhere (h.trans hspot.symm)]

end StyleTypings.World
