import StyleTypings.Proofs.Disk.Spots
import StyleTypings.Proofs.World.Generation

namespace StyleTypings.World

open Text (encode)

def lastFor? (target : String) (queue : List WriteRequest) : Option String :=
  ((queue.filter (·.target == target)).getLast?).map (·.contents)

def promised (w : World) (target : String) : Option String :=
  (lastFor? target w.writer.queue).or (w.disk.text? (encode target))

variable {P : Disk → Prop} {Q : WriteRequest → Prop} {path target : String} {w w' w'' : World}

theorem lastFor?_cons (target : String) (r : WriteRequest) (queue : List WriteRequest) :
    lastFor? target (r :: queue) =
      (lastFor? target queue).or (if r.target = target then some r.contents else none) := by
  by_cases h : r.target = target
  · cases hq : queue.filter (·.target == target) <;>
      simp [lastFor?, h, hq, List.getLast?_cons]
  · simp [lastFor?, h]

theorem lastFor?_append_singleton (target : String) (queue : List WriteRequest) (r : WriteRequest) :
    lastFor? target (queue ++ [r]) =
      if r.target = target then some r.contents else lastFor? target queue := by
  by_cases h : r.target = target <;> simp [lastFor?, h]

theorem promised_of_idle (h : w.writer.queue = []) :
    promised w target = w.disk.text? (encode target) := by
  simp [promised, lastFor?, h]

/-- Between two moments what can be read of a file does not change, and neither does what another
one is to hold. -/
structure Holds (path target : String) (w w' : World) : Prop where
  seen?_eq : w'.disk.seen? (encode path) = w.disk.seen? (encode path)
  promised_eq : promised w' target = promised w target

theorem Holds.refl (path target : String) (w : World) : Holds path target w w := ⟨rfl, rfl⟩

theorem Holds.trans (h : Holds path target w w') (h' : Holds path target w' w'') :
    Holds path target w w'' :=
  ⟨h'.seen?_eq.trans h.seen?_eq, h'.promised_eq.trans h.promised_eq⟩

theorem Holds.of_eq (hd : w'.disk = w.disk) (hw : w'.writer = w.writer) :
    Holds path target w w' := by
  constructor
  · rw [hd]
  · rw [promised, promised, hd, hw]

theorem alive_of_work (h : (work.run w).2.writer.alive = true) : w.writer.alive = true := by
  cases hn : w.writer.next? with
  | none => rwa [run_work_of_none w hn] at h
  | some next => exact (Writer.next?_eq_some_iff.1 hn).1

theorem alive_of_pause (h : (pause.run w).2.writer.alive = true) : w.writer.alive = true :=
  pause_invariant (I := fun w' ↦ w'.writer.alive = true → w.writer.alive = true)
    (fun _ h ha ↦ h (alive_of_work ha)) (fun _ _ h ↦ h) id h

theorem alive_of_submit {r : WriteRequest} (h : ((submit r).run w).2.writer.alive = true) :
    w.writer.alive = true := by
  cases hw : w.writer.submit? r with
  | some writer => exact (Writer.submit?_eq_some_iff.1 hw).2.1
  | none =>
    rw [run_submit_of_none w hw, run_report] at h
    revert h
    split <;> exact id

/-- Requests none of which touches the file at `path`, and none but those for `target` the file
there, which can be carried out. Others may fail. -/
structure Spares (P : Disk → Prop) (Q : WriteRequest → Prop) (path target : String) : Prop where
  outlasts : Outlasts P Q
  writable (d : Disk) (r : WriteRequest) : P d → Q r → r.target = target →
    (d.spot? (encode target)).isSome
  off_path (d : Disk) (r : WriteRequest) : P d → Q r → (d.spot? (encode r.target)).isSome →
    d.spot? (encode r.target) ≠ d.spot? (encode path)
  off_target (d : Disk) (r : WriteRequest) : P d → Q r →
    d.spot? (encode r.target) = d.spot? (encode target) → r.target = target

section Spares

variable (hs : Spares P Q path target)
include hs

theorem Tame.holds_work (h : Tame P Q w) (ha : (World.work.run w).2.writer.alive = true) :
    Holds path target w (World.work.run w).2 := by
  cases hn : w.writer.next? with
  | none =>
    rw [run_work_of_none w hn]
    exact .refl ..
  | some next =>
    obtain ⟨r, writer⟩ := next
    obtain ⟨-, hq, -⟩ := Writer.next?_eq_some_iff.1 hn
    have hr : Q r := h.queue r (hq ▸ List.mem_cons_self ..)
    rw [run_work_of_some w hn] at ha ⊢
    cases hwrite : w.disk.write (encode r.target) (encode r.contents) with
    | ok d' =>
      obtain ⟨spot, hspot, hstores⟩ := Disk.exists_stores hwrite
      have hsome : (w.disk.spot? (encode r.target)).isSome := by simp [hspot]
      simp only [attempt, hwrite]
      refine ⟨hstores.seen?_other fun hp ↦
        hs.off_path _ _ h.disk hr hsome (hspot.trans hp.symm), ?_⟩
      rw [promised, promised, hq, lastFor?_cons]
      by_cases ht : r.target = target
      · have hself := hstores.text?_self (ht ▸ hspot)
        rw [Text.decode?_eq_some_iff.2 rfl] at hself
        simp [ht, hself]
      · have hother : d'.text? (encode target) = w.disk.text? (encode target) :=
          hstores.text?_other fun hp ↦ ht (hs.off_target _ _ h.disk hr (hspot.trans hp.symm))
        simp [ht, hother]
    | error fault =>
      have ht : r.target ≠ target := by
        rintro rfl
        obtain ⟨spot, hspot⟩ := Option.isSome_iff_exists.1 (hs.writable _ r h.disk hr rfl)
        obtain ⟨d', hok⟩ := Disk.exists_write hspot (encode r.contents)
        rw [hwrite] at hok
        cases hok
      simp only [attempt, hwrite] at ha ⊢
      split
      next hpanics =>
        rw [if_pos hpanics] at ha
        cases ha
      next =>
        refine ⟨rfl, ?_⟩
        rw [promised, promised, hq, lastFor?_cons]
        simp [ht]

theorem Tame.holds_pause (h : Tame P Q w) (ha : (World.pause.run w).2.writer.alive = true) :
    Holds path target w (World.pause.run w).2 :=
  (pause_invariant (I := fun w' ↦ Tame P Q w' ∧
      (w'.writer.alive = true → Holds path target w w'))
    (fun _ ⟨h, hk⟩ ↦ ⟨h.work hs.outlasts, fun ha ↦
      (hk (alive_of_work ha)).trans (h.holds_work hs ha)⟩)
    (fun _ _ ⟨h, hk⟩ ↦ ⟨h.congr rfl rfl, fun ha ↦ (hk ha).trans (.of_eq rfl rfl)⟩)
    ⟨h, fun _ ↦ .refl ..⟩).2 ha

theorem Tame.promised_submit (h : Tame P Q w) (ht : w.writer.taking = true) {r : WriteRequest}
    (hr : Q r) (ha : ((World.submit r).run w).2.writer.alive = true) :
    ((World.submit r).run w).2.disk.seen? (encode path) = w.disk.seen? (encode path) ∧
      promised ((World.submit r).run w).2 target =
        if r.target = target then some r.contents else promised w target := by
  have hw : w.writer.submit? r = some { w.writer with queue := w.writer.queue ++ [r] } :=
    Writer.submit?_eq_some_iff.2 ⟨ht, alive_of_submit ha, rfl⟩
  rw [run_submit_of_some w hw] at ha ⊢
  have hgiven : Tame P Q { w with writer := { w.writer with queue := w.writer.queue ++ [r] } } := by
    refine ⟨h.disk, fun other hm ↦ ?_⟩
    rcases List.mem_append.1 hm with hm | hm
    · exact h.queue other hm
    · exact List.mem_singleton.1 hm ▸ hr
  have hk := hgiven.holds_pause hs ha
  refine ⟨hk.seen?_eq, hk.promised_eq.trans ?_⟩
  rw [promised, lastFor?_append_singleton]
  split
  · rfl
  · rfl

end Spares

/-- Requests that can be carried out, none of which touches the file at `path`, and none but those
for `target` the file there. -/
structure Serves (P : Disk → Prop) (Q : WriteRequest → Prop) (path target : String) : Prop where
  writes (d : Disk) (r : WriteRequest) : P d → Q r →
    ∃ d', d.write (encode r.target) (encode r.contents) = .ok d' ∧ P d'
  off_path (d : Disk) (r : WriteRequest) : P d → Q r →
    d.spot? (encode r.target) ≠ d.spot? (encode path)
  off_target (d : Disk) (r : WriteRequest) : P d → Q r →
    d.spot? (encode r.target) = d.spot? (encode target) → r.target = target

structure Steady (P : Disk → Prop) (Q : WriteRequest → Prop) (w : World) : Prop
    extends Tame P Q w where
  taking : w.writer.taking = true
  alive : w.writer.alive = true

theorem Serves.spares (hs : Serves P Q path target) : Spares P Q path target where
  outlasts d r d' hd hr hwrite := by
    obtain ⟨d'', hok, hd''⟩ := hs.writes d r hd hr
    rw [hwrite] at hok
    cases hok
    exact hd''
  writable d r hd hr ht := by
    obtain ⟨d', hok, -⟩ := hs.writes d r hd hr
    obtain ⟨spot, hspot, -⟩ := Disk.exists_stores hok
    rw [← ht, hspot]
    rfl
  off_path d r hd hr _ := hs.off_path d r hd hr
  off_target := hs.off_target

theorem Steady.congr (h : Steady P Q w) (hd : w'.disk = w.disk) (hw : w'.writer = w.writer) :
    Steady P Q w' :=
  ⟨h.toTame.congr hd hw, hw ▸ h.taking, hw ▸ h.alive⟩

section Serves

variable (hs : Serves P Q path target)
include hs

theorem Steady.work (h : Steady P Q w) :
    Steady P Q (work.run w).2 ∧ Holds path target w (work.run w).2 := by
  have htame := h.toTame.work hs.spares.outlasts
  have hst : Steady P Q (World.work.run w).2 := by
    refine ⟨htame, (taking_work w).trans h.taking, ?_⟩
    cases hn : w.writer.next? with
    | none =>
      rw [run_work_of_none w hn]
      exact h.alive
    | some next =>
      obtain ⟨r, writer⟩ := next
      obtain ⟨-, hq, hwriter⟩ := Writer.next?_eq_some_iff.1 hn
      obtain ⟨d', hwrite, -⟩ := hs.writes _ _ h.disk (h.queue r (hq ▸ List.mem_cons_self ..))
      rw [run_work_of_some w hn, attempt, hwrite, hwriter]
      exact h.alive
  exact ⟨hst, h.toTame.holds_work hs.spares hst.alive⟩

theorem Steady.pause (h : Steady P Q w) :
    Steady P Q (pause.run w).2 ∧ Holds path target w (pause.run w).2 :=
  pause_invariant (I := fun w' ↦ Steady P Q w' ∧ Holds path target w w')
    (fun _ ⟨h, hk⟩ ↦ (h.work hs).imp_right hk.trans)
    (fun _ _ ⟨h, hk⟩ ↦ ⟨h.congr rfl rfl, hk.trans (.of_eq rfl rfl)⟩) ⟨h, .refl ..⟩

theorem Steady.submit (h : Steady P Q w) {r : WriteRequest} (hr : Q r) :
    Steady P Q ((submit r).run w).2 ∧
      ((submit r).run w).2.disk.seen? (encode path) = w.disk.seen? (encode path) ∧
      promised ((submit r).run w).2 target =
        if r.target = target then some r.contents else promised w target := by
  have hw : w.writer.submit? r = some { w.writer with queue := w.writer.queue ++ [r] } :=
    Writer.submit?_eq_some_iff.2 ⟨h.taking, h.alive, rfl⟩
  have hgiven :
      Steady P Q { w with writer := { w.writer with queue := w.writer.queue ++ [r] } } := by
    refine ⟨⟨h.disk, fun other hm ↦ ?_⟩, h.taking, h.alive⟩
    rcases List.mem_append.1 hm with hm | hm
    · exact h.queue other hm
    · exact List.mem_singleton.1 hm ▸ hr
  have hst : Steady P Q ((World.submit r).run w).2 := by
    rw [run_submit_of_some w hw]
    exact (hgiven.pause hs).1
  exact ⟨hst, h.toTame.promised_submit hs.spares h.taking hr hst.alive⟩

end Serves

end StyleTypings.World
