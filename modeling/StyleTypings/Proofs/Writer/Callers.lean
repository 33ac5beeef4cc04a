import StyleTypings.Proofs.Writer.Delivery

namespace StyleTypings.Writer

inductive Stage where
  | begun
  | joining
  /-- It has returned; `waited` says whether it had waited for the thread. -/
  | returned (waited : Bool)
deriving DecidableEq, Repr

structure Finish where
  accepted : List Submission
  stage : Stage
deriving DecidableEq, Repr

/-- A shared writer and the calls that finish it, in the order in which they began. The first one
takes the thread of the writer along and waits for it; a later one finds nothing to wait for. -/
structure Crowd where
  shared : Shared
  calls : List Finish := []

namespace Crowd

variable {d : Disk} {c c' : Crowd}

inductive Step : Crowd → Crowd → Prop
  | submits {c : Crowd} {shared : Shared} (h : Shared.Submits c.shared shared) :
      Step c { c with shared }
  | works {c : Crowd} {shared : Shared} (h : Shared.Works c.shared shared) :
      Step c { c with shared }
  | begin {c : Crowd} : Step c { c with calls := c.calls ++ [⟨c.shared.accepted, .begun⟩] }
  | take {c : Crowd} {front behind : List Finish} {accepted : List Submission}
      (hcalls : c.calls = front ++ ⟨accepted, .begun⟩ :: behind)
      (ht : c.shared.writer.taking = true) :
      Step c
        { shared := { c.shared with writer := c.shared.writer.close, finishing := .joining }
          calls := front ++ ⟨accepted, .joining⟩ :: behind }
  | pass {c : Crowd} {front behind : List Finish} {accepted : List Submission}
      (hcalls : c.calls = front ++ ⟨accepted, .begun⟩ :: behind)
      (ht : c.shared.writer.taking = false) :
      Step c { c with calls := front ++ ⟨accepted, .returned false⟩ :: behind }
  | join {c : Crowd} {front behind : List Finish} {accepted : List Submission}
      (hcalls : c.calls = front ++ ⟨accepted, .joining⟩ :: behind) (hp : c.shared.place = .gone) :
      Step c
        { shared := { c.shared with finishing := .returned (!c.shared.writer.alive) }
          calls := front ++ ⟨accepted, .returned true⟩ :: behind }

inductive Reachable (d : Disk) : Crowd → Prop
  | start : Reachable d { shared := { disk := d } }
  | next {c c' : Crowd} (h : Reachable d c) (step : Step c c') : Reachable d c'

/-- What happens among the callers is one of the interleavings of the shared writer, and the calls
fit to it: one of them waits exactly as long as the writer is being joined. -/
structure Attended (d : Disk) (c : Crowd) : Prop where
  reachable : Shared.Reachable d c.shared
  joining_count :
    c.calls.countP (·.stage == .joining) = if c.shared.finishing = .joining then 1 else 0
  returned (call : Finish) (waited : Bool) : call ∈ c.calls → call.stage = .returned waited →
    c.shared.finishing ≠ .uncalled
  waited (call : Finish) : call ∈ c.calls → call.stage = .returned true →
    c.shared.finishing ≠ .joining
  accepted_subset (call : Finish) : call ∈ c.calls → call.accepted ⊆ c.shared.accepted

theorem Attended.shared (h : Attended d c) {shared : Shared} (hstep : Shared.Step c.shared shared)
    (hfinishing : shared.finishing = c.shared.finishing)
    (haccepted : c.shared.accepted ⊆ shared.accepted) : Attended d { c with shared } where
  reachable := h.reachable.next hstep
  joining_count := by rw [hfinishing, h.joining_count]
  returned call waited hm hs := by
    rw [hfinishing]
    exact h.returned call waited hm hs
  waited call hm hs := by
    rw [hfinishing]
    exact h.waited call hm hs
  accepted_subset call hm := List.Subset.trans (h.accepted_subset call hm) haccepted

theorem Attended.finishing_of_joining (h : Attended d c) {call : Finish} (hm : call ∈ c.calls)
    (hs : call.stage = .joining) : c.shared.finishing = .joining := by
  have hpos : 0 < c.calls.countP (·.stage == .joining) :=
    List.countP_pos_iff.2 ⟨call, hm, by simp [hs]⟩
  rw [h.joining_count] at hpos
  split at hpos
  · assumption
  · cases hpos

section Call

variable {front behind : List Finish} {accepted : List Submission}

theorem eq_or_mem_of_replaced {old new call : Finish} (hm : call ∈ front ++ new :: behind) :
    call = new ∨ call ∈ front ++ old :: behind := by
  simp only [List.mem_append, List.mem_cons] at hm ⊢
  rcases hm with hm | hm | hm
  · exact .inr (.inl hm)
  · exact .inl hm
  · exact .inr (.inr (.inr hm))

theorem Attended.accepted_subset_of_replaced (h : Attended d c) {old new : Stage}
    (hcalls : c.calls = front ++ ⟨accepted, old⟩ :: behind) {call : Finish}
    (hm : call ∈ front ++ ⟨accepted, new⟩ :: behind) : call.accepted ⊆ c.shared.accepted := by
  have hold : call = ⟨accepted, new⟩ ∨ call ∈ c.calls := hcalls ▸ eq_or_mem_of_replaced hm
  rcases hold with rfl | hm
  · exact h.accepted_subset ⟨accepted, old⟩ (by simp [hcalls])
  · exact h.accepted_subset call hm

theorem Attended.take (h : Attended d c) (hcalls : c.calls = front ++ ⟨accepted, .begun⟩ :: behind)
    (ht : c.shared.writer.taking = true) :
    Attended d
      { shared := { c.shared with writer := c.shared.writer.close, finishing := .joining }
        calls := front ++ ⟨accepted, .joining⟩ :: behind } := by
  have hf := h.reachable.ordered.taking_iff.1 ht
  have hcount := h.joining_count
  refine ⟨h.reachable.next (.finishes (.close hf)), ?_, fun _ _ _ _ ↦ by simp, ?_,
    fun call ↦ h.accepted_subset_of_replaced hcalls⟩
  -- Nobody has finished the writer, so that this call is the only one that waits.
  · rw [hcalls, List.countP_append, List.countP_cons_of_neg (by simp), hf, if_neg (by simp)]
      at hcount
    rw [List.countP_append, List.countP_cons_of_pos (by simp), if_pos rfl]
    omega
  · intro call hm hs
    have hold : call = ⟨accepted, .joining⟩ ∨ call ∈ c.calls :=
      hcalls ▸ eq_or_mem_of_replaced hm
    rcases hold with rfl | hm
    · cases hs
    · exact absurd hf (h.returned call true hm hs)

theorem Attended.pass (h : Attended d c) (hcalls : c.calls = front ++ ⟨accepted, .begun⟩ :: behind)
    (ht : c.shared.writer.taking = false) :
    Attended d { c with calls := front ++ ⟨accepted, .returned false⟩ :: behind } := by
  have hf : c.shared.finishing ≠ .uncalled :=
    fun hf ↦ by simp [h.reachable.ordered.taking_iff.2 hf] at ht
  have hcount := h.joining_count
  refine ⟨h.reachable, ?_, fun _ _ _ _ ↦ hf, ?_, fun call ↦ h.accepted_subset_of_replaced hcalls⟩
  · rw [hcalls] at hcount
    simpa [List.countP_cons] using hcount
  · intro call hm hs
    have hold : call = ⟨accepted, .returned false⟩ ∨ call ∈ c.calls :=
      hcalls ▸ eq_or_mem_of_replaced hm
    rcases hold with rfl | hm
    · cases hs
    · exact h.waited call hm hs

theorem Attended.join (h : Attended d c)
    (hcalls : c.calls = front ++ ⟨accepted, .joining⟩ :: behind) (hp : c.shared.place = .gone) :
    Attended d
      { shared := { c.shared with finishing := .returned (!c.shared.writer.alive) }
        calls := front ++ ⟨accepted, .returned true⟩ :: behind } := by
  have hm : (⟨accepted, .joining⟩ : Finish) ∈ c.calls := by simp [hcalls]
  have hf := h.finishing_of_joining hm rfl
  have hcount := h.joining_count
  refine ⟨h.reachable.next (.finishes (.join hf hp)), ?_, fun _ _ _ _ ↦ by simp,
    fun _ _ _ ↦ by simp, fun call ↦ h.accepted_subset_of_replaced hcalls⟩
  rw [hcalls, List.countP_append, List.countP_cons_of_pos (by simp), if_pos hf] at hcount
  rw [List.countP_append, List.countP_cons_of_neg (by simp), if_neg (by simp)]
  omega

end Call

theorem Attended.step (h : Attended d c) (hstep : Step c c') : Attended d c' := by
  cases hstep with
  | submits hs =>
    refine h.shared (.submits hs) ?_ ?_
    · cases hs <;> rfl
    · cases hs with
      | accept => exact List.subset_append_left ..
      | refuse | reject => exact List.Subset.refl _
  | works hw =>
    refine h.shared (.works hw) hw.finishing_eq ?_
    cases hw <;> exact List.Subset.refl _
  | begin =>
    -- The new call is still in front of the lock.
    refine ⟨h.reachable, by simpa using h.joining_count, fun call waited hm hs ↦ ?_,
      fun call hm hs ↦ ?_, fun call hm ↦ ?_⟩
    · rcases List.mem_append.1 hm with hm | hm
      · exact h.returned call waited hm hs
      · cases List.mem_singleton.1 hm
        cases hs
    · rcases List.mem_append.1 hm with hm | hm
      · exact h.waited call hm hs
      · cases List.mem_singleton.1 hm
        cases hs
    · rcases List.mem_append.1 hm with hm | hm
      · exact h.accepted_subset call hm
      · cases List.mem_singleton.1 hm
        exact List.Subset.refl _
  | take hcalls ht => exact h.take hcalls ht
  | pass hcalls ht => exact h.pass hcalls ht
  | join hcalls hp => exact h.join hcalls hp

theorem Reachable.attended (h : Reachable d c) : Attended d c := by
  induction h with
  | start => exact ⟨.start, rfl, by simp, by simp, by simp⟩
  | next _ step ih => exact ih.step step

/-- When a call that finishes a writer has returned, everything that was accepted before it began is
written, or its failure is reported, provided that the call has waited for the thread of the writer
or that no other call still waits for it. -/
theorem Reachable.drained (h : Reachable d c) (hpanicked : ¬c.shared.Panicked) {call : Finish}
    (hmem : call ∈ c.calls) {waited : Bool} (hstage : call.stage = .returned waited)
    (hlate : waited = true ∨ ∀ other ∈ c.calls, other.stage ≠ .joining) {sub : Submission}
    (hsub : sub ∈ call.accepted) :
    sub ∈ c.shared.attempted ∧
      (sub ∈ c.shared.written ∧ c.shared.reportsOf sub = 0 ∨
        sub ∉ c.shared.written ∧ c.shared.reportsOf sub = 1) := by
  have ha := h.attended
  have hnot : c.shared.finishing ≠ .joining := by
    rcases hlate with rfl | hnone
    · exact ha.waited call hmem hstage
    · intro hf
      have hcount := ha.joining_count
      rw [if_pos hf] at hcount
      obtain ⟨other, hm, hs⟩ := List.countP_pos_iff.1 (hcount ▸ Nat.one_pos)
      exact hnone other hm (eq_of_beq hs)
  have hreturned : ∃ died, c.shared.finishing = .returned died := by
    cases hf : c.shared.finishing with
    | uncalled => exact absurd hf (ha.returned call waited hmem hstage)
    | joining => exact absurd hf hnot
    | returned died => exact ⟨died, rfl⟩
  obtain ⟨died, hf⟩ := hreturned
  have o := ha.reachable.ordered
  have hr := ha.reachable.reported
  have halive : c.shared.writer.alive = true := by
    have := hr.panicked_iff
    simpa [hpanicked] using fun hd ↦ hpanicked (this.2 (.inr hd))
  obtain ⟨hall, hsettled⟩ :=
    Shared.settled_of_left o ha.reachable.numbered hr (o.returned died hf).1 halive
  have haccepted : sub ∈ c.shared.accepted := ha.accepted_subset call hmem hsub
  have hreported := Shared.reportsOf_of_accepted o ha.reachable.numbered hr haccepted
  exact ⟨hall ▸ haccepted, hsettled sub (.inl haccepted) hreported.2.2⟩

def handed : Submission := ⟨0, "a", "x"⟩

/-- A writer with two calls that finish it, the first of which waits while the second one has
returned. -/
def hasty : Crowd where
  shared :=
    { disk := {}
      writer := { taking := false, queue := [handed.request] }
      finishing := .joining
      queued := [handed]
      accepted := [handed]
      issued := 1 }
  calls := [⟨[handed], .joining⟩, ⟨[handed], .returned false⟩]

theorem reachable_hasty : Reachable {} hasty := by
  have h₁ := (Reachable.start (d := {})).next (.submits (.accept (r := handed.request) rfl))
  have h₂ := (h₁.next .begin).next .begin
  have h₃ := h₂.next (.take (show _ = [] ++ _ from rfl) rfl)
  exact h₃.next (.pass (show _ = [_] ++ [_] from rfl) rfl)

/-- The later call has returned although nothing has been attempted. -/
theorem returned_undrained : ∃ c call sub, Reachable {} c ∧ ¬c.shared.Panicked ∧
    call ∈ c.calls ∧ call.stage = .returned false ∧ sub ∈ call.accepted ∧
      sub ∉ c.shared.attempted ∧ c.shared.reportsOf sub = 0 :=
  ⟨hasty, ⟨[handed], .returned false⟩, handed, reachable_hasty, by simp [Shared.Panicked, hasty],
    by simp [hasty], rfl, by simp, by simp [Shared.attempted, hasty], rfl⟩

def patient : Crowd where
  shared :=
    { disk := { top := .dir [([97], .file [120] false)] }
      writer := { taking := false }
      place := .gone
      finishing := .returned false
      accepted := [handed]
      attempts := [⟨handed, .written⟩]
      issued := 1 }
  calls := [⟨[handed], .returned true⟩, ⟨[handed], .returned false⟩]

theorem reachable_patient : Reachable {} patient := by
  have hwrite : Disk.write {} (Text.encode "a") (Text.encode "x") =
      .ok { top := .dir [([97], .file [120] false)] } := by cbv
  have h₁ := reachable_hasty.next (.works (.take rfl rfl rfl))
  have h₂ := h₁.next (.works (.write rfl hwrite))
  have h₃ := h₂.next (.works (.leave rfl rfl rfl))
  exact h₃.next (.join (show _ = [] ++ [_, _] from rfl) rfl)

theorem drained_patient : Reachable {} patient ∧ handed ∈ patient.shared.attempted ∧
    handed ∈ patient.shared.written :=
  have hmem : (⟨[handed], .returned false⟩ : Finish) ∈ patient.calls := by simp [patient]
  have hdrained := reachable_patient.drained (by simp [Shared.Panicked, patient]) hmem rfl
    (.inr (by simp [patient])) (List.mem_singleton_self handed)
  ⟨reachable_patient, hdrained.1, by decide⟩

end Crowd
end StyleTypings.Writer
