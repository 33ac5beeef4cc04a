import Mathlib
import StyleTypings.Proofs.Text.Encoding
import StyleTypings.Proofs.Writer.History
import StyleTypings.Proofs.Writer.Storing

namespace StyleTypings.Writer.Shared

variable {d : Disk} {s s' : Shared}

/-- How many steps the thread of a writer has before it at most, if nothing more is accepted. -/
def backlog (s : Shared) : Nat :=
  match s.place with
  | .gone => 0
  | .waiting | .unwinding => 3 * s.queued.length + 1
  | .reporting _ _ => 3 * s.queued.length + 2
  | .attempting _ => 3 * s.queued.length + 3

theorem Works.backlog_lt (h : Works s s') : s'.backlog < s.backlog := by
  cases h with
  | take hp hq => simp [backlog, hp, hq]; omega
  | write hp | fail hp | report hp | panic hp | die hp | leave hp => simp [backlog, hp]

theorem Works.finishing_eq (h : Works s s') : s'.finishing = s.finishing := by
  cases h <;> rfl

theorem Ordered.exists_works (o : Ordered s) (ht : s.writer.taking = false)
    (hg : s.place ≠ .gone) : ∃ s', Works s s' := by
  cases hp : s.place with
  | gone => exact absurd hp hg
  | unwinding => exact ⟨_, .die hp⟩
  | reporting sub fault => exact ⟨_, .report hp⟩
  | attempting sub => exact ⟨_, .fail hp .noSpace none rfl⟩
  | waiting =>
    have hqueue := o.queue_eq
    cases hq : s.queued with
    | nil => exact ⟨_, .leave hp ht (by rw [hqueue, hq, List.map_nil])⟩
    | cons sub rest =>
      rw [hq, List.map_cons] at hqueue
      have hnext : s.writer.next? =
          some (sub.request, { s.writer with queue := rest.map (·.request) }) :=
        next?_eq_some_iff.2 ⟨o.alive_of_place hg, hqueue, rfl⟩
      exact ⟨_, .take hp hq hnext⟩

inductive Ends (P : Shared → Prop) : Shared → Prop
  | now {s : Shared} (h : P s) : Ends P s
  | later {s : Shared} (hex : ∃ s', Works s s') (h : ∀ s', Works s s' → Ends P s') : Ends P s

theorem Ordered.ends_gone (o : Ordered s) (hf : s.finishing = .joining) :
    Ends (fun s' ↦ s'.place = .gone ∧ s'.finishing = .joining) s := by
  induction hn : s.backlog using Nat.strongRecOn generalizing s with
  | ind n ih =>
    by_cases hg : s.place = .gone
    · exact .now ⟨hg, hf⟩
    · have ht : s.writer.taking = false := by simpa [hf] using o.taking_iff
      refine .later (o.exists_works ht hg) fun s' hw ↦ ?_
      exact ih s'.backlog (hn ▸ hw.backlog_lt) (o.works hw) (hw.finishing_eq.trans hf) rfl

theorem Ends.imp {P Q : Shared → Prop} (h : ∀ s, P s → Q s) (he : Ends P s) : Ends Q s := by
  induction he with
  | now hp => exact .now (h _ hp)
  | later hex _ ih => exact .later hex ih

/-- What holds at every moment of a shared writer. -/
structure Delivers (s : Shared) : Prop where
  submitted (n : Nat) : n < s.issued → ∃ sub : Submission, sub.number = n ∧
    (sub ∈ s.accepted ∧ sub ∉ s.refused ∨ sub ∈ s.refused ∧ sub ∉ s.accepted)
  /-- Requests are refused from the moment at which the writer is finished or its thread is gone. -/
  accepting (r : WriteRequest) :
    (s.writer.submit? r).isSome ↔ s.finishing = .uncalled ∧ s.place ≠ .gone
  in_order : s.attempted ++ s.place.held <+: s.accepted
  at_most_once : (s.attempted ++ s.place.held).Nodup
  refused_reported (sub : Submission) : sub ∈ s.refused →
    s.reportsOf sub + s.unreported.count sub = 1
  refused_untouched (sub : Submission) : sub ∈ s.refused → sub ∉ s.attempted
  failed_reported (sub : Submission) (fault : Disk.Fault) (left? : Option Text.Bytes) :
    ⟨sub, .failed fault left?⟩ ∈ s.attempts →
      s.place = .reporting sub fault ∧ s.reportsOf sub = 0 ∨
        s.reportsOf sub = 1 ∧ ∃ panicked, ⟨.writer, sub, fault, panicked⟩ ∈ s.reports
  written_unreported (sub : Submission) : sub ∈ s.written → s.reportsOf sub = 0
  finished (died : Bool) : s.finishing = .returned died → ¬s.Panicked →
    s.attempted = s.accepted ∧
      ∀ sub, sub ∈ s.accepted ∨ sub ∈ s.refused → sub ∉ s.unreported →
        sub ∈ s.written ∧ s.reportsOf sub = 0 ∨ sub ∉ s.written ∧ s.reportsOf sub = 1
  stored : s.Stored
  /-- A target holds what was written for it last, unless its file was opened for another target as
  well, or by a write that failed then. -/
  own (sub : Submission) :
    (s.written.filter (·.request.target == sub.request.target)).getLast? = some sub →
      (∀ a ∈ s.opened, placeOf s.disk a.submission = placeOf s.disk sub →
        a.outcome = .written ∧ a.submission.request.target = sub.request.target) →
      s.disk.contents (Text.encode sub.request.target) = .ok (Text.encode sub.request.contents)
  /-- After a report has panicked on the thread of the writer, nothing more is attempted, and what
  was accepted by then is neither written nor reported. -/
  panicked : s.Panicked →
    (∃ before sub fault left?, s.attempts = before ++ [⟨sub, .failed fault left?⟩] ∧
      ⟨.writer, sub, fault, true⟩ ∈ s.reports) ∧
    (s.place = .unwinding ∨ s.place = .gone) ∧
    ∀ sub ∈ s.accepted, sub ∉ s.attempted → sub ∉ s.written ∧ s.reportsOf sub = 0
  /-- The call that finishes the writer returns in any case, and tells whether the thread died. -/
  returns : s.finishing = .joining →
    Ends (fun s' ↦ ∃ s'' died, Finishes s' s'' ∧ s''.finishing = .returned died) s
  returned (died : Bool) : s.finishing = .returned died → (died = true ↔ s.Panicked)

theorem exists_of_number (hn : Numbered s) {n : Nat} (h : n < s.issued) :
    ∃ sub : Submission, sub.number = n ∧
      (sub ∈ s.accepted ∧ sub ∉ s.refused ∨ sub ∈ s.refused ∧ sub ∉ s.accepted) := by
  have hmem := hn.mem_iff.2 (List.mem_range.2 h)
  obtain ⟨sub, hsub, rfl⟩ := List.mem_map.1 hmem
  have hdisjoint := (List.nodup_append'.1 hn.nodup).2.2
  refine ⟨sub, rfl, ?_⟩
  rcases List.mem_append.1 hsub with ha | hr
  · exact .inl ⟨ha, fun hr ↦ hdisjoint ha hr⟩
  · exact .inr ⟨hr, fun ha ↦ hdisjoint ha hr⟩

theorem Ordered.isSome_submit?_iff (o : Ordered s) (r : WriteRequest) :
    (s.writer.submit? r).isSome ↔ s.finishing = .uncalled ∧ s.place ≠ .gone := by
  have hsome : (s.writer.submit? r).isSome ↔ s.writer.taking = true ∧ s.writer.alive = true := by
    cases ht : s.writer.taking <;> cases ha : s.writer.alive <;> simp [submit?, accepts, ht, ha]
  rw [hsome, ← o.taking_iff]
  constructor
  · rintro ⟨ht, ha⟩
    exact ⟨ht, fun hp ↦ absurd (o.left ha hp).1 (by simp [ht])⟩
  · rintro ⟨ht, hp⟩
    exact ⟨ht, o.alive_of_place hp⟩

theorem Ordered.begun_prefix (o : Ordered s) : s.attempted ++ s.place.held <+: s.accepted := by
  refine ⟨s.queued ++ s.lost, ?_⟩
  rw [o.accepted_eq]
  simp only [List.append_assoc]

theorem Ordered.attempted_prefix (o : Ordered s) : s.attempted <+: s.accepted :=
  (List.prefix_append _ _).trans o.begun_prefix

section Accounts

variable (o : Ordered s) (hn : Numbered s) (hr : Reported s)
include o hn hr

theorem reportsOf_of_refused {sub : Submission} (h : sub ∈ s.refused) :
    s.reportsOf sub + s.unreported.count sub = 1 ∧ sub ∉ s.attempted := by
  obtain ⟨refusals, failed, hreports, hrefused, hattempted⟩ := hr.exists_counts sub
  have hpos : 0 < s.refused.count sub := List.count_pos_iff.2 h
  have hle := hn.count_le sub
  have hbegun := o.attempted_prefix.sublist.count_le sub
  refine ⟨by omega, fun ha ↦ ?_⟩
  have := List.count_pos_iff.2 ha
  omega

theorem reportsOf_of_accepted {sub : Submission} (h : sub ∈ s.accepted) :
    s.reportsOf sub + (s.place.owed.map (·.1)).count sub + s.written.count sub =
      s.attempted.count sub ∧ s.attempted.count sub ≤ 1 ∧ sub ∉ s.unreported := by
  obtain ⟨refusals, failed, hreports, hrefused, hattempted⟩ := hr.exists_counts sub
  have hpos : 0 < s.accepted.count sub := List.count_pos_iff.2 h
  have hle := hn.count_le sub
  have hbegun := o.attempted_prefix.sublist.count_le sub
  refine ⟨by omega, by omega, fun hu ↦ ?_⟩
  have := List.count_pos_iff.2 hu
  omega

theorem reportsOf_of_written {sub : Submission} (h : sub ∈ s.written) :
    s.reportsOf sub = 0 := by
  have hpos : 0 < s.written.count sub := List.count_pos_iff.2 h
  have hmem := o.attempted_prefix.subset (s.written_subset h)
  have := reportsOf_of_accepted o hn hr hmem
  omega

theorem reportsOf_of_failed {sub : Submission} {fault : Disk.Fault} {left? : Option Text.Bytes}
    (h : ⟨sub, .failed fault left?⟩ ∈ s.attempts) :
    s.place = .reporting sub fault ∧ s.reportsOf sub = 0 ∨
      s.reportsOf sub = 1 ∧ ∃ panicked, ⟨.writer, sub, fault, panicked⟩ ∈ s.reports := by
  have hmem : sub ∈ s.attempted := List.mem_map.2 ⟨_, h, rfl⟩
  have hcount := reportsOf_of_accepted o hn hr (o.attempted_prefix.subset hmem)
  have hf := mem_failures_iff.2 ⟨left?, h⟩
  rw [hr.failures_eq] at hf
  rcases List.mem_append.1 hf with hf | hf
  · obtain ⟨r, hreport, he⟩ := List.mem_map.1 hf
    obtain ⟨rfl, rfl⟩ := Prod.mk.inj he
    obtain ⟨hreport, hthread⟩ := List.mem_filter.1 hreport
    have hpos : 0 < s.reportsOf r.submission := List.countP_pos_iff.2 ⟨r, hreport, by simp⟩
    have hwriter : r.thread = .writer := eq_of_beq hthread
    exact .inr ⟨by omega, r.panicked, hwriter ▸ hreport⟩
  · cases hp : s.place with
    | reporting sub' fault' =>
      rw [hp] at hf
      cases List.mem_singleton.1 hf
      simp only [hp, Place.owed, List.map_cons, List.map_nil, List.count_singleton_self] at hcount
      exact .inl ⟨rfl, by omega⟩
    | waiting | attempting | unwinding | gone =>
      rw [hp] at hf
      exact absurd hf List.not_mem_nil

theorem settled_of_left (hp : s.place = .gone) (ha : s.writer.alive = true) :
    s.attempted = s.accepted ∧ ∀ sub, sub ∈ s.accepted ∨ sub ∈ s.refused → sub ∉ s.unreported →
      sub ∈ s.written ∧ s.reportsOf sub = 0 ∨ sub ∉ s.written ∧ s.reportsOf sub = 1 := by
  have hall : s.attempted = s.accepted := by
    rw [o.accepted_eq, hp, (o.left ha hp).2, o.lost_eq ha]
    simp [Place.held]
  refine ⟨hall, fun sub hsub hu ↦ ?_⟩
  rcases hsub with haccepted | hrefused
  · have hcount := (reportsOf_of_accepted o hn hr haccepted).1
    have hone : s.attempted.count sub = 1 := by
      have hpos : 0 < s.accepted.count sub := List.count_pos_iff.2 haccepted
      have := hn.count_le sub
      rw [hall]
      omega
    simp only [hp, Place.owed, List.map_nil, List.count_nil] at hcount
    by_cases hw : sub ∈ s.written
    · exact .inl ⟨hw, reportsOf_of_written o hn hr hw⟩
    · rw [List.count_eq_zero.2 hw] at hcount
      exact .inr ⟨hw, by omega⟩
  · obtain ⟨hcount, hnot⟩ := reportsOf_of_refused o hn hr hrefused
    rw [List.count_eq_zero.2 hu] at hcount
    exact .inr ⟨fun hw ↦ hnot (s.written_subset hw), by omega⟩

theorem lost_of_panicked (h : s.Panicked) :
    (∃ before sub fault left?, s.attempts = before ++ [⟨sub, .failed fault left?⟩] ∧
      ⟨.writer, sub, fault, true⟩ ∈ s.reports) ∧
    (s.place = .unwinding ∨ s.place = .gone) ∧
    ∀ sub ∈ s.accepted, sub ∉ s.attempted → sub ∉ s.written ∧ s.reportsOf sub = 0 := by
  have hplace := (hr.panicked_iff.1 h).imp id fun ha ↦ (o.dead ha).1
  obtain ⟨⟨thread, sub, fault, panicked⟩, hm, rfl, rfl⟩ := h
  obtain ⟨before, left?, hbefore⟩ := hr.panicked_last _ hm rfl rfl
  refine ⟨⟨before, sub, fault, left?, hbefore, hm⟩, hplace, fun other hother hnot ↦ ?_⟩
  have hcount := (reportsOf_of_accepted o hn hr hother).1
  rw [List.count_eq_zero.2 hnot] at hcount
  exact ⟨fun hw ↦ absurd (List.count_pos_iff.2 hw) (by omega), by omega⟩

end Accounts

/-- Every state of a shared writer keeps what it promises. -/
theorem Reachable.delivers (h : Reachable d s) : Delivers s := by
  have o := h.ordered
  have hn := h.numbered
  have hr := h.reported
  exact {
    submitted := fun n hlt ↦ exists_of_number hn hlt
    accepting := o.isSome_submit?_iff
    in_order := o.begun_prefix
    at_most_once := o.begun_prefix.sublist.nodup (List.nodup_append'.1 hn.nodup).1
    refused_reported := fun sub hsub ↦ (reportsOf_of_refused o hn hr hsub).1
    refused_untouched := fun sub hsub ↦ (reportsOf_of_refused o hn hr hsub).2
    failed_reported := fun _ _ _ ha ↦ reportsOf_of_failed o hn hr ha
    written_unreported := fun sub hw ↦ reportsOf_of_written o hn hr hw
    finished := fun died hf hp ↦ by
      have halive : s.writer.alive = true := by
        have := hr.panicked_iff
        simpa [hp] using fun ha ↦ hp (this.2 (.inr ha))
      exact settled_of_left o hn hr (o.returned died hf).1 halive
    stored := h.stored
    own := fun _ hlast hown ↦ h.stored.contents_eq hlast hown
    panicked := lost_of_panicked o hn hr
    returns := fun hf ↦ (o.ends_gone hf).imp fun s' hs' ↦
      ⟨_, _, .join hs'.2 hs'.1, rfl⟩
    returned := fun died hf ↦ by
      obtain ⟨hp, rfl⟩ := o.returned died hf
      simp [hr.panicked_iff, hp] }

/-- A writer whose thread has written one request, emptied the file of the second, died of the
report of that and lost the third, and that was then finished. -/
def bereft : Shared :=
  let sub (number : Nat) (target : String) : Submission := ⟨number, target, "x"⟩
  { disk := { top := .dir [([97], .file [120] false), ([98], .file [] false)] }
    writer := ⟨false, false, []⟩
    place := .gone
    finishing := .returned true
    lost := [sub 2 "c"]
    accepted := [sub 0 "a", sub 1 "b", sub 2 "c"]
    refused := [sub 3 "d"]
    attempts := [⟨sub 0 "a", .written⟩, ⟨sub 1 "b", .failed .noSpace (some [])⟩]
    reports := [⟨.writer, sub 1 "b", .noSpace, true⟩, ⟨.main, sub 3 "d", rejection, false⟩]
    issued := 4 }

theorem delivers_bereft : Reachable {} bereft ∧ Delivers bereft := by
  have hwrite : Disk.write {} (Text.encode "a") (Text.encode "x") =
      .ok { top := .dir [([97], .file [120] false)] } := by cbv
  have hfail : Disk.leave { top := .dir [([97], .file [120] false)] } (Text.encode "b") (some []) =
      .ok { top := .dir [([97], .file [120] false), ([98], .file [] false)] } := by cbv
  have h₁ := (Reachable.start (d := {})).next (.submits (.accept (r := ⟨"a", "x"⟩) rfl))
  have h₂ := h₁.next (.works (.take rfl rfl rfl))
  have h₃ := h₂.next (.works (.write rfl hwrite))
  have h₄ := h₃.next (.submits (.accept (r := ⟨"b", "x"⟩) rfl))
  have h₅ := h₄.next (.submits (.accept (r := ⟨"c", "x"⟩) rfl))
  have h₆ := h₅.next (.works (.take rfl rfl rfl))
  have h₇ := h₆.next (.works (.fail rfl .noSpace (some []) hfail))
  have h₈ := h₇.next (.works (.panic rfl))
  have h₉ := h₈.next (.works (.die rfl))
  have h₁₀ := h₉.next (.submits (.refuse (r := ⟨"d", "x"⟩) rfl))
  have h₁₁ := h₁₀.next (.submits (.reject (List.mem_singleton.2 rfl) false))
  have h₁₂ := h₁₁.next (.finishes (.close rfl))
  have h : Reachable {} bereft := h₁₂.next (.finishes (.join rfl rfl))
  exact ⟨h, h.delivers⟩

def HoldsOwn (s : Shared) : Prop :=
  ∀ sub, (s.written.filter (·.request.target == sub.request.target)).getLast? = some sub →
    s.disk.contents (Text.encode sub.request.target) = .ok (Text.encode sub.request.contents)

def linkedDisk : Disk where
  top := .dir [([97], .file [] false), ([98], .link [97])]

/-- A request for another target goes over the contents if both lead to one file, and so does one
that fails when it has opened the file. -/
theorem not_holdsOwn :
    (∃ s, Reachable linkedDisk s ∧ ¬s.Panicked ∧ s.finishing = .returned false ∧ ¬HoldsOwn s) ∧
      ∃ s, Reachable {} s ∧ ¬s.Panicked ∧ s.finishing = .returned false ∧ ¬HoldsOwn s := by
  constructor
  · have hwrite : linkedDisk.write (Text.encode "a") (Text.encode "x") =
        .ok { top := .dir [([97], .file [120] false), ([98], .link [97])] } := by cbv
    have hwrite' : Disk.write { top := .dir [([97], .file [120] false), ([98], .link [97])] }
        (Text.encode "b") (Text.encode "y") =
          .ok { top := .dir [([97], .file [121] false), ([98], .link [97])] } := by cbv
    have h₁ := (Reachable.start (d := linkedDisk)).next (.submits (.accept (r := ⟨"a", "x"⟩) rfl))
    have h₂ := h₁.next (.submits (.accept (r := ⟨"b", "y"⟩) rfl))
    have h₃ := (h₂.next (.works (.take rfl rfl rfl))).next (.works (.write rfl hwrite))
    have h₄ := (h₃.next (.works (.take rfl rfl rfl))).next (.works (.write rfl hwrite'))
    have h₅ := (h₄.next (.finishes (.close rfl))).next (.works (.leave rfl rfl rfl))
    refine ⟨_, h₅.next (.finishes (.join rfl rfl)), by simp [Panicked], rfl, fun hholds ↦ ?_⟩
    have hcontents := hholds ⟨0, "a", "x"⟩ (by decide)
    have hread : Disk.contents { top := .dir [([97], .file [121] false), ([98], .link [97])] }
        (Text.encode "a") = .ok (Text.encode "y") := by cbv
    rw [hread] at hcontents
    exact absurd (Text.encode_injective (Except.ok.inj hcontents)) (by decide)
  · have hwrite : Disk.write {} (Text.encode "a") (Text.encode "x") =
        .ok { top := .dir [([97], .file [120] false)] } := by cbv
    have hfail : Disk.leave { top := .dir [([97], .file [120] false)] } (Text.encode "a")
        (some []) = .ok { top := .dir [([97], .file [] false)] } := by cbv
    have h₁ := (Reachable.start (d := {})).next (.submits (.accept (r := ⟨"a", "x"⟩) rfl))
    have h₂ := h₁.next (.submits (.accept (r := ⟨"a", "y"⟩) rfl))
    have h₃ := (h₂.next (.works (.take rfl rfl rfl))).next (.works (.write rfl hwrite))
    have h₄ := (h₃.next (.works (.take rfl rfl rfl))).next
      (.works (.fail rfl .noSpace (some []) hfail))
    have h₅ := (h₄.next (.works (.report rfl))).next (.finishes (.close rfl))
    refine ⟨_, (h₅.next (.works (.leave rfl rfl rfl))).next (.finishes (.join rfl rfl)),
      by simp [Panicked], rfl, fun hholds ↦ ?_⟩
    have hcontents := hholds ⟨0, "a", "x"⟩ (by decide)
    have hread : Disk.contents { top := .dir [([97], .file [] false)] } (Text.encode "a") =
        .ok (Text.encode "") := by cbv
    rw [hread] at hcontents
    exact absurd (Text.encode_injective (Except.ok.inj hcontents)) (by decide)

end StyleTypings.Writer.Shared
