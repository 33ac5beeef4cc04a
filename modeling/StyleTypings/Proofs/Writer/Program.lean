import StyleTypings.Proofs.World.Endurance
import StyleTypings.Proofs.Writer.Delivery

namespace StyleTypings.Writer

open World (work workFor drain pause submit finish)

namespace Shared

variable {d : Disk} {rs : List WriteRequest} {s : Shared} {w : World}

/-- What a program sees of a shared writer while neither of them is in the middle of something. -/
structure Shows (s : Shared) (w : World) : Prop where
  disk_eq : w.disk = s.disk
  writer_eq : w.writer = s.writer
  failures_eq : w.failures = (s.reports.filter (!·.panicked)).map fun r ↦
    ⟨r.submission.request.target, r.fault⟩
  place : s.place = .waiting ∨ s.place = .gone

structure Handed (rs : List WriteRequest) (s : Shared) : Prop where
  issued_eq : s.issued = rs.length
  request (sub : Submission) : sub ∈ s.accepted ∨ sub ∈ s.refused →
    rs[sub.number]? = some sub.request

def Backs (d : Disk) (rs : List WriteRequest) (w : World) : Prop :=
  ∃ s, Reachable d s ∧ Shows s w ∧ Handed rs s

theorem Shows.congr {w' : World} (h : Shows s w) (hd : w'.disk = w.disk)
    (hw : w'.writer = w.writer) (hf : w'.failures = w.failures) : Shows s w' :=
  ⟨hd.trans h.disk_eq, hw.trans h.writer_eq, hf.trans h.failures_eq, h.place⟩

theorem Handed.congr {s' : Shared} (h : Handed rs s) (hissued : s'.issued = s.issued)
    (haccepted : s'.accepted = s.accepted) (hrefused : s'.refused = s.refused) :
    Handed rs s' where
  issued_eq := hissued.trans h.issued_eq
  request := by
    rw [haccepted, hrefused]
    exact h.request

theorem Ordered.queued_of_next? (o : Ordered s) {r : WriteRequest} {writer : Writer}
    (h : s.writer.next? = some (r, writer)) (hp : s.place = .waiting ∨ s.place = .gone) :
    s.place = .waiting ∧ ∃ sub rest, s.queued = sub :: rest ∧ sub.request = r := by
  obtain ⟨ha, hq, -⟩ := next?_eq_some_iff.1 h
  rw [o.queue_eq] at hq
  obtain ⟨sub, rest, hqueued, hr, -⟩ := List.map_eq_cons_iff.1 hq
  refine ⟨hp.resolve_right fun hg ↦ ?_, sub, rest, hqueued, hr⟩
  rw [(o.left ha hg).2] at hqueued
  cases hqueued

theorem Handed.submitted (h : Handed rs s) {s' : Shared} {r : WriteRequest}
    (hissued : s'.issued = s.issued + 1)
    (hsub : ∀ sub, sub ∈ s'.accepted ∨ sub ∈ s'.refused →
      (sub ∈ s.accepted ∨ sub ∈ s.refused) ∨ sub = s.numbered r) : Handed (rs ++ [r]) s' where
  issued_eq := by rw [hissued, h.issued_eq, List.length_append, List.length_singleton]
  request sub hm := by
    rcases hsub sub hm with hm | rfl
    · have hnth := h.request sub hm
      rw [List.getElem?_append_left (List.getElem?_eq_some_iff.1 hnth).1, hnth]
    · simp [numbered, h.issued_eq]

theorem Backs.work (h : Backs d rs w) : Backs d rs (work.run w).2 := by
  obtain ⟨s, hr, hs, hh⟩ := h
  cases hn : w.writer.next? with
  | none =>
    rw [World.run_work_of_none w hn]
    exact ⟨s, hr, hs, hh⟩
  | some next =>
    obtain ⟨r, writer⟩ := next
    rw [World.run_work_of_some w hn]
    rw [hs.writer_eq] at hn
    obtain ⟨hp, sub, rest, hq, rfl⟩ := hr.ordered.queued_of_next? hn hs.place
    have htake := hr.next (.works (.take hp hq hn))
    unfold World.attempt
    rw [hs.disk_eq]
    split
    next disk hw =>
      exact ⟨_, htake.next (.works (.write rfl hw)), ⟨rfl, rfl, hs.failures_eq, .inl rfl⟩,
        hh.congr rfl rfl rfl⟩
    next fault hw =>
      have hfail := htake.next (.works (.fail rfl fault none rfl))
      split
      · exact ⟨_, (hfail.next (.works (.panic rfl))).next (.works (.die rfl)),
          ⟨rfl, rfl, by simp [hs.failures_eq], .inr rfl⟩, hh.congr rfl rfl rfl⟩
      · exact ⟨_, hfail.next (.works (.report rfl)),
          ⟨rfl, rfl, by simp [hs.failures_eq], .inl rfl⟩, hh.congr rfl rfl rfl⟩

theorem Backs.workFor (h : Backs d rs w) (n : Nat) : Backs d rs ((workFor n).run w).2 :=
  World.workFor_invariant (fun _ h ↦ h.work) h n

theorem Backs.pause (h : Backs d rs w) : Backs d rs (pause.run w).2 :=
  World.pause_invariant (fun _ h ↦ h.work)
    (fun _ _ ⟨s, hr, hs, hh⟩ ↦ ⟨s, hr, hs.congr rfl rfl rfl, hh⟩) h

theorem Backs.submit (h : Backs d rs w) (r : WriteRequest) :
    Backs d (rs ++ [r]) ((submit r).run w).2 := by
  obtain ⟨s, hr, hs, hh⟩ := h
  cases hw : w.writer.submit? r with
  | some writer =>
    rw [World.run_submit_of_some w hw]
    rw [hs.writer_eq] at hw
    refine Backs.pause (w := { w with writer })
      ⟨_, hr.next (.submits (.accept hw)), ⟨hs.disk_eq, rfl, hs.failures_eq, hs.place⟩,
        hh.submitted rfl fun sub hm ↦ ?_⟩
    simpa [or_right_comm] using hm
  | none =>
    rw [World.run_submit_of_none w hw, World.run_report]
    rw [hs.writer_eq] at hw
    have hrefuse := hr.next (.submits (.refuse hw))
    have hmem : s.numbered r ∈ s.unreported ++ [s.numbered r] := by simp
    have hnumbered (sub : Submission)
        (hm : sub ∈ s.accepted ∨ sub ∈ s.refused ++ [s.numbered r]) :
        (sub ∈ s.accepted ∨ sub ∈ s.refused) ∨ sub = s.numbered r := by
      simpa [or_assoc] using hm
    split
    · exact ⟨_, hrefuse.next (.submits (.reject hmem true)),
        ⟨hs.disk_eq, hs.writer_eq, by simp [hs.failures_eq], hs.place⟩,
        hh.submitted rfl hnumbered⟩
    · exact ⟨_, hrefuse.next (.submits (.reject hmem false)),
        ⟨hs.disk_eq, hs.writer_eq, by simp [hs.failures_eq, numbered], hs.place⟩,
        hh.submitted rfl hnumbered⟩

def submitAll (rs : List WriteRequest) : App Unit := rs.forM submit

theorem Backs.submitAll (h : Backs d rs w) (hserving : World.Serving w)
    (more : List WriteRequest) : Backs d (rs ++ more) ((submitAll more).run w).2 ∧
      World.Serving ((submitAll more).run w).2 := by
  induction more generalizing rs w with
  | nil => exact ⟨(List.append_nil rs).symm ▸ h, hserving⟩
  | cons r more ih =>
    rw [← List.singleton_append, ← List.append_assoc]
    exact ih (h.submit r) (hserving.submit r)

theorem Reachable.exists_joined (hr : Reachable d s) (hs : Shows s w)
    (ht : w.writer.taking = false) (hidle : w.writer.next? = none) :
    ∃ s', Reachable d s' ∧ Shows s' w ∧ s'.finishing = .returned (!w.writer.alive) ∧
      ∀ rs, Handed rs s → Handed rs s' := by
  have o := hr.ordered
  rw [hs.writer_eq] at ht hidle ⊢
  cases hf : s.finishing with
  | uncalled => exact absurd (o.taking_iff.2 hf) (by simp [ht])
  | returned died =>
    obtain ⟨-, rfl⟩ := o.returned died hf
    exact ⟨s, hr, hs, hf, fun _ ↦ id⟩
  | joining =>
    rcases hs.place with hp | hp
    · have ha := o.alive_of_place (by simp [hp])
      have hq : s.writer.queue = [] := by
        unfold next? at hidle
        split at hidle
        · assumption
        · simp [ha] at hidle
      have hleave := hr.next (.works (.leave hp ht hq))
      exact ⟨_, hleave.next (.finishes (.join hf rfl)), ⟨hs.1, hs.2, hs.3, .inr rfl⟩, rfl,
        fun _ hh ↦ hh.congr rfl rfl rfl⟩
    · exact ⟨_, hr.next (.finishes (.join hf hp)), ⟨hs.1, hs.2, hs.3, hs.4⟩, rfl,
        fun _ hh ↦ hh.congr rfl rfl rfl⟩

theorem Backs.finish (h : Backs d rs w) (ht : w.writer.taking = true) :
    ∃ s, Reachable d s ∧ Shows s (finish.run w).2 ∧
      s.finishing = .returned (!(finish.run w).2.writer.alive) ∧ Handed rs s := by
  obtain ⟨s₀, hr₀, hs₀, hh₀⟩ := h
  have hf₀ : s₀.finishing = .uncalled := hr₀.ordered.taking_iff.1 (hs₀.writer_eq ▸ ht)
  have hclosed : Backs d rs { w with writer := w.writer.close } :=
    ⟨_, hr₀.next (.finishes (.close hf₀)),
      ⟨hs₀.disk_eq, congrArg Writer.close hs₀.writer_eq, hs₀.failures_eq, hs₀.place⟩,
      hh₀.congr rfl rfl rfl⟩
  obtain ⟨s, hr, hs, hh⟩ := hclosed.workFor w.writer.queue.length
  have hidle := World.next?_workFor { w with writer := w.writer.close } (Nat.le_refl _)
  have htaking := World.taking_workFor { w with writer := w.writer.close } w.writer.queue.length
  obtain ⟨s', hr', hs', hf', hsame⟩ := hr.exists_joined hs htaking hidle
  obtain ⟨log, hlog⟩ := World.exists_run_finish w ht
  rw [hlog]
  exact ⟨s', hr', hs'.congr rfl rfl rfl, hf', hsame rs hh⟩

/-- What a program hands to a new writer is delivered when it has finished that writer, whatever the
schedule says. -/
theorem exists_delivers (hw : w.writer = {}) (hf : w.failures = []) (rs : List WriteRequest) :
    ∃ s, Shows s (finish.run ((submitAll rs).run w).2).2 ∧ Handed rs s ∧ Delivers s ∧
      ∃ died, s.finishing = .returned died := by
  have hbegun : Backs w.disk [] w :=
    ⟨{ disk := w.disk }, .start, ⟨rfl, hw, by simp [hf], .inl rfl⟩, ⟨rfl, by simp⟩⟩
  obtain ⟨hhanded, hserving⟩ := hbegun.submitAll ⟨by rw [hw], by simp [hw]⟩ rs
  obtain ⟨s, hr, hs, hfinishing, hh⟩ := hhanded.finish hserving.taking
  exact ⟨s, hs, hh, hr.delivers, _, hfinishing⟩

end Shared
end StyleTypings.Writer
