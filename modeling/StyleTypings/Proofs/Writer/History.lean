import Mathlib.Data.List.Nodup
import StyleTypings.Proofs.Writer.Interleaving

namespace StyleTypings.Writer

def Place.held : Place → List Submission
  | .attempting s => [s]
  | _ => []

def Place.owed : Place → List (Submission × Disk.Fault)
  | .reporting s fault => [(s, fault)]
  | _ => []

namespace Shared

variable {d : Disk} {s s' : Shared}

/-- The parts of a shared writer fit together. -/
structure Ordered (s : Shared) : Prop where
  queue_eq : s.writer.queue = s.queued.map (·.request)
  accepted_eq : s.accepted = s.attempted ++ s.place.held ++ s.queued ++ s.lost
  lost_eq : s.writer.alive = true → s.lost = []
  dead : s.writer.alive = false → s.place = .gone ∧ s.queued = []
  left : s.writer.alive = true → s.place = .gone → s.writer.taking = false ∧ s.queued = []
  taking_iff : s.writer.taking = true ↔ s.finishing = .uncalled
  returned (died : Bool) : s.finishing = .returned died → s.place = .gone ∧ died = !s.writer.alive

theorem Ordered.alive_of_place (o : Ordered s) (h : s.place ≠ .gone) : s.writer.alive = true := by
  cases ha : s.writer.alive with
  | true => rfl
  | false => exact absurd (o.dead ha).1 h

theorem Ordered.not_returned (o : Ordered s) (h : s.place ≠ .gone) (died : Bool) :
    s.finishing ≠ .returned died :=
  fun hf ↦ h (o.returned died hf).1

theorem Ordered.submits (o : Ordered s) (h : Submits s s') : Ordered s' := by
  cases h with
  | @accept r writer h =>
    obtain ⟨ht, ha, rfl⟩ := submit?_eq_some_iff.1 h
    refine ⟨?_, ?_, o.lost_eq, ?_, ?_, o.taking_iff, o.returned⟩
    · simp [o.queue_eq, numbered]
    · have hl := o.lost_eq ha
      have := o.accepted_eq
      simp_all [attempted]
    · intro hd
      exact absurd hd (by simp [ha])
    · intro _ hp
      exact absurd (o.left ha hp).1 (by simp [ht])
  | refuse | reject => exact ⟨o.1, o.2, o.3, o.4, o.5, o.6, o.7⟩

/-- While the thread is busy with one submission, the queue and the calls are left alone. -/
theorem Ordered.at_place (o : Ordered s) (hp : s.place ≠ .gone) {disk : Disk}
    {attempts : List Attempt} {reports : List Report} {place : Place} (hne : place ≠ .gone)
    (hbegun : attempts.map (·.submission) ++ place.held = s.attempted ++ s.place.held) :
    Ordered { s with disk, attempts, reports, place } := by
  have ha := o.alive_of_place hp
  refine ⟨o.queue_eq, ?_, o.lost_eq, by simp [ha], fun _ hgone ↦ absurd hgone hne, o.taking_iff,
    fun died hf ↦ absurd hf (o.not_returned hp died)⟩
  rw [attempted, hbegun]
  exact o.accepted_eq

theorem Ordered.works (o : Ordered s) (h : Works s s') : Ordered s' := by
  cases h with
  | @take sub rest writer hp hq h =>
    obtain ⟨ha, hw, hwriter⟩ := next?_eq_some_iff.1 h
    have hqueue := o.queue_eq
    have haccepted := o.accepted_eq
    have halive : writer.alive = true := by rw [hwriter]; exact ha
    have htaking : writer.taking = s.writer.taking := by rw [hwriter]
    rw [hw, hq, List.map_cons] at hqueue
    rw [hp, hq] at haccepted
    refine ⟨(List.cons.inj hqueue).2, ?_, fun _ ↦ o.lost_eq ha, ?_, ?_, ?_, ?_⟩
    · simpa [attempted, Place.held] using haccepted
    · simp [halive]
    · simp
    · rw [htaking]
      exact o.taking_iff
    · exact fun died hf ↦ absurd hf (o.not_returned (by simp [hp]) died)
  | write hp | fail hp | report hp | panic hp =>
    exact o.at_place (by simp [hp]) (by simp) (by simp [attempted, Place.held, hp])
  | die hp =>
    have hl := o.lost_eq (o.alive_of_place (by simp [hp]))
    have haccepted := o.accepted_eq
    refine ⟨by simp [die], ?_, by simp [die], by simp, by simp [die], o.taking_iff, ?_⟩
    · simpa [attempted, Place.held, hp, hl] using haccepted
    · exact fun died hf ↦ absurd hf (o.not_returned (by simp [hp]) died)
  | leave hp ht hq =>
    have ha := o.alive_of_place (by simp [hp])
    have hqueued : s.queued = [] := by simpa [hq] using o.queue_eq
    have haccepted := o.accepted_eq
    refine ⟨o.queue_eq, ?_, o.lost_eq, by simp [ha], fun _ _ ↦ ⟨ht, hqueued⟩, o.taking_iff, ?_⟩
    · simpa [attempted, Place.held, hp] using haccepted
    · exact fun died hf ↦ absurd hf (o.not_returned (by simp [hp]) died)

theorem Ordered.finishes (o : Ordered s) (h : Finishes s s') : Ordered s' := by
  cases h with
  | close hf =>
    refine ⟨o.queue_eq, o.accepted_eq, o.lost_eq, o.dead, fun ha hp ↦ ⟨rfl, (o.left ha hp).2⟩, ?_,
      ?_⟩
    · simp [close]
    · intro died h
      cases h
  | join hf hp =>
    have ht : ¬s.writer.taking = true := by simp [o.taking_iff, hf]
    refine ⟨o.queue_eq, o.accepted_eq, o.lost_eq, o.dead, o.left, by simp [ht], ?_⟩
    intro died h
    cases h
    exact ⟨hp, rfl⟩

theorem Ordered.step (o : Ordered s) (h : Step s s') : Ordered s' := by
  cases h with
  | submits h => exact o.submits h
  | works h => exact o.works h
  | finishes h => exact o.finishes h

theorem Reachable.ordered (h : Reachable d s) : Ordered s := by
  induction h with
  | start => constructor <;> simp [attempted, Place.held]
  | next _ step ih => exact ih.step step

/-- Every submission was accepted or refused, and none twice. -/
def Numbered (s : Shared) : Prop :=
  ((s.accepted ++ s.refused).map (·.number)).Perm (List.range s.issued)

theorem perm_range_succ {numbers before behind : List Nat} {n : Nat}
    (h : numbers.Perm (List.range n)) (hn : numbers = before ++ behind) :
    (before ++ n :: behind).Perm (List.range (n + 1)) := by
  rw [List.range_succ]
  refine List.perm_middle.trans ?_
  rw [← hn]
  exact (h.cons n).trans (List.perm_append_singleton n _).symm

theorem Numbered.step (hn : Numbered s) (h : Step s s') : Numbered s' := by
  cases h with
  | submits h =>
    cases h with
    | accept =>
      simpa [Numbered, numbered] using perm_range_succ hn (List.map_append ..)
    | refuse =>
      simpa [Numbered, numbered] using perm_range_succ hn (List.append_nil _).symm
    | reject => exact hn
  | works h => cases h <;> exact hn
  | finishes h => cases h <;> exact hn

theorem Numbered.nodup (hn : Numbered s) : (s.accepted ++ s.refused).Nodup :=
  List.Nodup.of_map (·.number) (hn.nodup_iff.2 List.nodup_range)

theorem Reachable.numbered (h : Reachable d s) : Numbered s := by
  induction h with
  | start => simp [Numbered]
  | next _ step ih => exact ih.step step

def failures (s : Shared) : List (Submission × Disk.Fault) :=
  s.attempts.filterMap fun a ↦ a.fault?.map (a.submission, ·)

def told (s : Shared) (thread : Thread) : List Report :=
  s.reports.filter (·.thread == thread)

/-- Reports belong to refusals and to failed attempts, one to each. -/
structure Reported (s : Shared) : Prop where
  refused_count (sub : Submission) : s.refused.count sub =
    s.unreported.count sub + ((s.told .main).map (·.submission)).count sub
  failures_eq : s.failures =
    (s.told .writer).map (fun r ↦ (r.submission, r.fault)) ++ s.place.owed
  panicked_iff : s.Panicked ↔ s.place = .unwinding ∨ s.writer.alive = false
  reporting (sub : Submission) (fault : Disk.Fault) : s.place = .reporting sub fault →
    ∃ before left?, s.attempts = before ++ [⟨sub, .failed fault left?⟩]
  panicked_last (r : Report) : r ∈ s.reports → r.thread = .writer → r.panicked = true →
    ∃ before left?, s.attempts = before ++ [⟨r.submission, .failed r.fault left?⟩]

theorem Reported.not_panicked (hr : Reported s) (o : Ordered s) (hp : s.place ≠ .gone)
    (hu : s.place ≠ .unwinding) : ¬s.Panicked := by
  simp [hr.panicked_iff, hu, o.alive_of_place hp]

theorem Reported.submits (hr : Reported s) (h : Submits s s') : Reported s' := by
  cases h with
  | @accept r writer h =>
    obtain ⟨-, -, rfl⟩ := submit?_eq_some_iff.1 h
    exact ⟨hr.1, hr.2, hr.3, hr.4, hr.5⟩
  | refuse =>
    refine ⟨fun sub ↦ ?_, hr.failures_eq, hr.panicked_iff, hr.reporting, hr.panicked_last⟩
    have hc := hr.refused_count sub
    simp only [List.count_append, told] at hc ⊢
    omega
  | @reject sub hmem panicked =>
    refine ⟨fun other ↦ ?_, ?_, ?_, hr.reporting, fun r hr' ht hp ↦ ?_⟩
    · have hc := hr.refused_count other
      have hpos : 0 < s.unreported.count sub := List.count_pos_iff.2 hmem
      by_cases he : sub = other
      · subst he
        simp [told] at hc ⊢
        omega
      · simpa [told, List.count_cons, he, List.count_erase_of_ne (Ne.symm he)] using hc
    · simpa [failures, told] using hr.failures_eq
    · simpa [Panicked] using hr.panicked_iff
    · rcases List.mem_append.1 hr' with hr' | hr'
      · exact hr.panicked_last r hr' ht hp
      · obtain rfl := List.mem_singleton.1 hr'
        cases ht

theorem Reported.works (hr : Reported s) (o : Ordered s) (h : Works s s') : Reported s' := by
  cases h with
  | take hp hq h =>
    obtain ⟨ha, -, hwriter⟩ := next?_eq_some_iff.1 h
    refine ⟨hr.refused_count, ?_, ?_, by simp, hr.panicked_last⟩
    · simpa [failures, told, Place.owed, hp] using hr.failures_eq
    · rw [hwriter]
      simpa [Panicked, hp] using hr.panicked_iff
  | write hp | fail hp =>
    have hno := hr.not_panicked o (by simp [hp]) (by simp [hp])
    refine ⟨hr.refused_count, ?_, ?_, by simp, fun r hm ht hpan ↦ absurd ⟨r, hm, ht, hpan⟩ hno⟩
    · simpa [failures, Attempt.fault?, Disk.Outcome.fault?, told, Place.owed, hp] using
        hr.failures_eq
    · simpa [Panicked, hp] using hr.panicked_iff
  | @report sub fault hp =>
    have hno := hr.not_panicked o (by simp [hp]) (by simp [hp])
    refine ⟨fun other ↦ ?_, ?_, ?_, by simp, fun r hm ht hpan ↦ ?_⟩
    · simpa [told] using hr.refused_count other
    · simpa [failures, told, Place.owed, hp] using hr.failures_eq
    · simpa [Panicked, hp] using hr.panicked_iff
    · rcases List.mem_append.1 hm with hm | hm
      · exact absurd ⟨r, hm, ht, hpan⟩ hno
      · obtain rfl := List.mem_singleton.1 hm
        cases hpan
  | @panic sub fault hp =>
    have hno := hr.not_panicked o (by simp [hp]) (by simp [hp])
    refine ⟨fun other ↦ ?_, ?_, ?_, by simp, fun r hm ht hpan ↦ ?_⟩
    · simpa [told] using hr.refused_count other
    · simpa [failures, told, Place.owed, hp] using hr.failures_eq
    · simp [Panicked]
    · rcases List.mem_append.1 hm with hm | hm
      · exact absurd ⟨r, hm, ht, hpan⟩ hno
      · obtain rfl := List.mem_singleton.1 hm
        exact hr.reporting sub fault hp
  | die hp =>
    refine ⟨hr.refused_count, ?_, ?_, by simp, hr.panicked_last⟩
    · simpa [failures, told, Place.owed, hp] using hr.failures_eq
    · simpa [Panicked, hp, die] using hr.panicked_iff
  | leave hp =>
    refine ⟨hr.refused_count, ?_, ?_, by simp, hr.panicked_last⟩
    · simpa [failures, told, Place.owed, hp] using hr.failures_eq
    · simpa [Panicked, hp] using hr.panicked_iff

theorem Reported.finishes (hr : Reported s) (h : Finishes s s') : Reported s' := by
  cases h <;> exact ⟨hr.1, hr.2, hr.3, hr.4, hr.5⟩

theorem Reported.step (hr : Reported s) (o : Ordered s) (h : Step s s') : Reported s' := by
  cases h with
  | submits h => exact hr.submits h
  | works h => exact hr.works o h
  | finishes h => exact hr.finishes h

theorem Reachable.reported (h : Reachable d s) : Reported s := by
  induction h with
  | start => constructor <;> simp [failures, told, Place.owed, Panicked]
  | next h step ih => exact ih.step h.ordered step

theorem reportsOf_eq (s : Shared) (sub : Submission) :
    s.reportsOf sub = ((s.told .main).map (·.submission)).count sub +
      ((s.told .writer).map (·.submission)).count sub := by
  unfold reportsOf told
  induction s.reports with
  | nil => rfl
  | cons r reports ih =>
    obtain ⟨thread, submission, fault, panicked⟩ := r
    cases thread <;> simp [List.countP_cons, List.count_cons, ih] <;> omega

theorem count_attempted (s : Shared) (sub : Submission) :
    s.attempted.count sub = s.written.count sub + (s.failures.map (·.1)).count sub := by
  unfold attempted written failures
  induction s.attempts with
  | nil => rfl
  | cons a attempts ih =>
    obtain ⟨submission, outcome⟩ := a
    cases outcome <;> simp [Attempt.fault?, Disk.Outcome.fault?, List.count_cons, ih] <;> omega

theorem written_subset (s : Shared) : s.written ⊆ s.attempted :=
  ((List.filter_sublist (l := s.attempts)).map _).subset

theorem Reported.exists_counts (hr : Reported s) (sub : Submission) : ∃ refusals failed,
    s.reportsOf sub = refusals + failed ∧
    s.refused.count sub = s.unreported.count sub + refusals ∧
    s.attempted.count sub =
      s.written.count sub + (failed + (s.place.owed.map (·.1)).count sub) := by
  refine ⟨_, _, reportsOf_eq s sub, hr.refused_count sub, ?_⟩
  rw [count_attempted, hr.failures_eq, List.map_append, List.count_append, List.map_map]
  rfl

theorem Numbered.count_le (hn : Numbered s) (sub : Submission) :
    s.accepted.count sub + s.refused.count sub ≤ 1 := by
  rw [← List.count_append]
  exact List.nodup_iff_count_le_one.1 hn.nodup sub

theorem mem_failures_iff {sub : Submission} {fault : Disk.Fault} :
    (sub, fault) ∈ s.failures ↔ ∃ left?, ⟨sub, .failed fault left?⟩ ∈ s.attempts := by
  simp only [failures, List.mem_filterMap, Option.map_eq_some_iff, Prod.mk.injEq]
  constructor
  · rintro ⟨⟨_, _ | ⟨_, left?⟩⟩, ha, _, hfault, rfl, rfl⟩
    · cases hfault
    · cases hfault
      exact ⟨left?, ha⟩
  · exact fun ⟨_, ha⟩ ↦ ⟨_, ha, fault, rfl, rfl, rfl⟩

end Shared
end StyleTypings.Writer
