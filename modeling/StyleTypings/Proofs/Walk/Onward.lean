import StyleTypings.Proofs.Walk.Beside
import StyleTypings.Proofs.Walk.Start
import StyleTypings.Proofs.Walk.Undisturbed

namespace StyleTypings.Walk

open Disk (Location Name Node)
open Text (Bytes encode)

variable {t : Toolchain} {e : Exclusion} {d : Disk} {root : Bytes} {top : Location} {n : Node}

theorem Settled.exists_calm (c : Calm t d root top n) (hnode : d.node root false = .ok n)
    {d₁ : Disk} (hs : Settled t e d root top n d₁) :
    ∃ n₁, d₁.node root false = .ok n₁ ∧ Calm t d₁ root top n₁ ∧
      weight (some n₁) ≤ taskBound d₁ := by
  obtain ⟨location, hl⟩ := exists_lookup_of_node hnode
  obtain ⟨n₁, hl₁⟩ := hs.keeps.grows.lookup_found hl
  have hnode₁ : d₁.node root false = .ok n₁ := by rw [Disk.node, hl₁]
  have hkind : n₁.kind = .dir := by
    have hgrew := hs.keeps.grows.top location
    rw [(Disk.lookup_eq_ok_iff.1 hl).2.at?_eq, (Disk.lookup_eq_ok_iff.1 hl₁).2.at?_eq] at hgrew
    cases hgrew with
    | some ha => exact ha.kind_eq.trans c.directory
  obtain ⟨top₁, g, hbound⟩ := exists_ground hs.keeps.wellFormed hnode₁ (by simp [hkind])
  obtain ⟨n', hrooted⟩ := hs.keeps.grows.lookup_found c.rooted
  rw [g.rooted] at hrooted
  cases hrooted
  refine ⟨n₁, hnode₁, ⟨g, hkind, fun l target hat ↦ ?_, c.functional, c.sink⟩, hbound⟩
  rw [← g.at?_append] at hat
  have hbefore := ((hs.keeps.grows.top (top ++ l)).link_iff target).2 hat
  rw [c.at?_append] at hbefore
  exact c.no_links l target hbefore

namespace Scene

variable {s s' : Scene}

/-- What a walk is on its way to: what it comes to on the disk that it began with. -/
def Heads (t : Toolchain) (e : Exclusion) (d : Disk) (root : Bytes) (top : Location) (n : Node)
    (s : Scene) : Prop :=
  match s.phase with
  | .walking p => ∃ cost, s.done + cost ≤ weight (some n) ∧
      Pending e d root top n p.tasks cost ∧
      ∀ rs answer, Comes t e d (active p.tasks) p.summary rs answer →
        Comes t e d [.visit root .dir] {} (s.submitted ++ rs) answer
  | .ended answer => s.done ≤ weight (some n) ∧
      Comes t e d [.visit root .dir] {} s.submitted answer

theorem Heads.walking (h : Heads t e d root top n s) {p : Progress}
    (hphase : s.phase = .walking p) :
    ∃ cost, s.done + cost ≤ weight (some n) ∧ Pending e d root top n p.tasks cost ∧
      ∀ rs answer, Comes t e d (active p.tasks) p.summary rs answer →
        Comes t e d [.visit root .dir] {} (s.submitted ++ rs) answer := by
  rw [Heads, hphase] at h
  exact h

theorem Heads.ended (h : Heads t e d root top n s) {answer : Except Failure Summary}
    (hphase : s.phase = .ended answer) :
    s.done ≤ weight (some n) ∧ Comes t e d [.visit root .dir] {} s.submitted answer := by
  rw [Heads, hphase] at h
  exact h

structure Onward (t : Toolchain) (e : Exclusion) (d : Disk) (root : Bytes) (top : Location)
    (n : Node) (s : Scene) : Prop where
  settled : Settled t e d root top n s.disk
  asked (r : WriteRequest) : r ∈ s.submitted → Asked t e d root top n r
  heads : Heads t e d root top n s

theorem onward_begin {root : String} (c : Calm t d (encode root) top n) {d₁ : Disk}
    (hnode : d.node (encode root) false = .ok n) (hs : Settled t e d (encode root) top n d₁) :
    Onward t e d (encode root) top n (begin d₁ root) := by
  have hstart : start d₁ (encode root) = .ok [.visit (encode root) .dir] := by
    obtain ⟨n₁, hnode₁, c₁, -⟩ := hs.exists_calm c hnode
    rw [start_of_node hnode₁ (by simp [c₁.directory]), c₁.directory]
  have hpending : Pending e d (encode root) top n [.visit (encode root) .dir]
      (weight (some n) + 0) := by
    rw [← c.directory]
    exact .visit (l := []) (Node.at?_nil n) (kept_nil e _) (by simp) .nil
  refine ⟨hs, by simp [begin], ?_⟩
  unfold Heads begin
  rw [hstart]
  exact ⟨_, by simp, hpending, fun rs answer h ↦ h⟩

section Calm

variable (c : Calm t d root top n)
include c

theorem Onward.task (h : Onward t e d root top n s) {task : Task} {later : List Task}
    {summary : Summary} (hphase : s.phase = .walking ⟨task :: later, summary⟩) :
    Onward t e d root top n (s.after later summary (task.gain t e s.disk)) := by
  obtain ⟨cost, hdone, hpending, hcomes⟩ := h.heads.walking hphase
  cases hidle : task.idle with
  | true =>
    obtain ⟨cost', hcost, hpending'⟩ := hpending.tail
    rw [gain_of_idle hidle]
    refine ⟨h.settled, by simpa [after] using h.asked, cost', ?_, hpending', ?_⟩
    · simp only [after]
      omega
    · rw [active_cons_of_idle hidle] at hcomes
      simpa [after, summary_append_empty] using hcomes
  | false =>
    rw [active_cons_of_not_idle hidle] at hcomes
    rcases h.settled.gain_cases c hpending hidle with
      ⟨f, hgain, hgain'⟩ | ⟨g, g', cost', hgain, hgain', hlike, hcost, hpending', hasked⟩
    · rw [hgain']
      refine ⟨h.settled, h.asked, ?_, ?_⟩
      · obtain ⟨cost', hcost, -⟩ := hpending.tail
        simp only [after]
        omega
      · simpa [after] using hcomes [] _ (.stop hgain)
    · rw [hgain']
      refine ⟨h.settled, fun r hr ↦ ?_, cost', ?_, hpending', fun rs answer hrest ↦ ?_⟩
      · rcases List.mem_append.1 hr with hr | hr
        · exact h.asked r hr
        · exact hasked r (hlike.request_eq ▸ Option.mem_toList.1 hr)
      · simp only [after]
        omega
      · rw [active_append, hlike.active_eq, hlike.summary_eq] at hrest
        simpa only [after, hlike.request_eq, List.append_assoc] using hcomes _ _ (.step hgain hrest)

theorem Onward.next (h : Onward t e d root top n s) (hwaiting : s.waiting ⊆ s.submitted)
    (hmoves : Moves t e s s') : Onward t e d root top n s' := by
  cases hmoves with
  | task hphase => exact h.task c hphase
  | @arrive summary hphase =>
    obtain ⟨cost, hdone, hpending, hcomes⟩ := h.heads.walking hphase
    exact ⟨h.settled, h.asked, by simp only; omega, by simpa using hcomes [] _ (.arrive summary)⟩
  | @attempt r rest disk hwait outcome hleave =>
    have hr : Asked t e d root top n r := h.asked r (hwaiting (hwait ▸ List.mem_cons_self ..))
    refine ⟨?_, h.asked, h.heads⟩
    cases hopened : outcome.left? (encode r.contents) with
    | none =>
      rw [hopened] at hleave
      cases hleave
      exact h.settled
    | some bytes =>
      rw [hopened] at hleave
      exact h.settled.write c hr hleave

def Stored (d : Disk) (s : Scene) : Prop :=
  ∀ r bytes, s.lastLeft r = some bytes → ∃ spot executable,
    d.spot? (encode r.target) = some spot ∧ s.disk.top.at? spot = some (.file bytes executable)

theorem Stored.attempt (h : Stored d s) (ho : Onward t e d root top n s) {d₁ : Disk}
    (ha : Accounts d₁ s) {r : WriteRequest} (hr : r ∈ s.waiting) {bytes : Bytes} {disk : Disk}
    (hwrite : s.disk.write (encode r.target) bytes = .ok disk) (hdisk : s'.disk = disk)
    (hleft : s'.left = s.left ++ [(r, bytes)]) : Stored d s' := by
  subst hdisk
  obtain ⟨spot, executable, hwrote⟩ := Disk.exists_wrote hwrite
  have hspot : d.spot? (encode r.target) = some spot := by
    rw [← Disk.spot?_eq_of_grows ho.settled.keeps.grows]
    exact hwrote.spot?_eq
  intro r' bytes' hlast
  by_cases hsame : r = r'
  · subst hsame
    obtain rfl : bytes = bytes' := by simpa [lastLeft, hleft] using hlast
    exact ⟨spot, executable, hspot, hwrote.replaces.here⟩
  · have hlast' : s.lastLeft r' = some bytes' := by simpa [lastLeft, hleft, hsame] using hlast
    obtain ⟨spot', executable', hspot', hat⟩ := h r' bytes' hlast'
    have hne : spot' ≠ spot := by
      -- Two requests for one place are the same.
      rintro rfl
      exact hsame ((ho.asked r (ha.waiting_subset hr)).eq_of_spot c
        (ho.asked r' (ha.mem_submitted (mem_left_of_lastLeft hlast'))) hspot hspot')
    refine ⟨spot', executable', hspot', ?_⟩
    have hrel := hwrote.replaces.elsewhere spot' hne
    rw [hat] at hrel
    generalize s'.disk.top.at? spot' = found at hrel
    cases hrel with
    | some hl => rw [hl.eq_of_not_dir (by simp [Node.kind])]

theorem Stored.next (h : Stored d s) (ho : Onward t e d root top n s) {d₁ : Disk}
    (ha : Accounts d₁ s) (hmoves : Moves t e s s') : Stored d s' := by
  cases hmoves with
  | @task task later summary hphase =>
    cases task.gain t e s.disk <;> exact h
  | arrive hphase => exact h
  | @attempt r rest disk hwait outcome hleave =>
    have hleft := left_attempt s disk rest r outcome
    cases hopened : outcome.left? (encode r.contents) with
    | none =>
      rw [hopened] at hleave hleft
      cases hleave
      rw [Option.map_none, Option.toList_none, List.append_nil] at hleft
      intro r' bytes hlast
      rw [lastLeft, hleft] at hlast
      exact h r' bytes hlast
    | some bytes =>
      rw [hopened] at hleave hleft
      exact h.attempt c ho ha (hwait ▸ List.mem_cons_self ..) hleave rfl hleft

end Calm

section Reachable

variable {root : String} (c : Calm t d (encode root) top n)
  (hnode : d.node (encode root) false = .ok n)
include c hnode

theorem Reachable.onward {d₁ : Disk} (hs : Settled t e d (encode root) top n d₁)
    (h : Reachable t e (begin d₁ root) s) : Onward t e d (encode root) top n s := by
  induction h with
  | start => exact onward_begin c hnode hs
  | next h step ih =>
    exact ih.next c (h.accounts c.sink).waiting_subset ((step_iff_moves c.sink).1 step)

theorem Reachable.comes {d₁ : Disk} (hs : Settled t e d (encode root) top n d₁)
    (h : Reachable t e (begin d₁ root) s) {answer : Except Failure Summary}
    (hphase : s.phase = .ended answer) :
    Comes t e d [.visit (encode root) .dir] {} s.submitted answer :=
  ((h.onward c hnode hs).heads.ended hphase).2

/-- Two walks that have ended have submitted and answered the same, also if the second one began on
the disk that the first one left. -/
theorem Reachable.agree {d₁ d₂ : Disk} (hs : Settled t e d (encode root) top n d₁)
    (hs' : Settled t e d (encode root) top n d₂) (h : Reachable t e (begin d₁ root) s)
    (h' : Reachable t e (begin d₂ root) s') {answer answer' : Except Failure Summary}
    (hphase : s.phase = .ended answer) (hphase' : s'.phase = .ended answer') :
    answer' = answer ∧ s'.submitted = s.submitted := by
  obtain ⟨hsubmitted, hanswer⟩ :=
    (h'.comes c hnode hs' hphase').unique (h.comes c hnode hs hphase)
  exact ⟨hanswer, hsubmitted⟩

theorem Reachable.stored (h : Reachable t e (begin d root) s) : Stored d s := by
  induction h with
  | start => intro r bytes hr; cases hr
  | next h step ih =>
    exact ih.next c (h.onward c hnode (settled_refl c.wellFormed)) (h.accounts c.sink)
      ((step_iff_moves c.sink).1 step)

theorem Reachable.write_again (h : Reachable t e (begin d root) s) {d₁ : Disk} {r : WriteRequest}
    {bytes : Bytes} (hlast : s.lastLeft r = some bytes)
    (hgrows : Disk.Grows (fun _ ↦ True) s.disk d₁)
    (hsame : ∀ spot, d.spot? (encode r.target) = some spot →
      Option.Rel Disk.Node.Alike (s.disk.top.at? spot) (d₁.top.at? spot)) :
    d₁.write (encode r.target) bytes = .ok d₁ := by
  obtain ⟨spot, executable, hspot, hat⟩ := h.stored c hnode r bytes hlast
  have hat' : d₁.top.at? spot = some (.file bytes executable) := by
    have hrel := hsame spot hspot
    rw [hat] at hrel
    generalize d₁.top.at? spot = found at hrel
    cases hrel with
    | some hl => rw [hl.eq_of_not_dir (by simp [Node.kind])]
  refine Disk.write_eq_self ?_ hat'
  rw [Disk.spot?_eq_of_grows hgrows, Disk.spot?_eq_of_grows (h.accounts c.sink).grows, hspot]

/-- A walk on the disk that another one has left changes only files in which it leaves something
else than that one. -/
theorem Reachable.changed_again (h : Reachable t e (begin d root) s)
    (h' : Reachable t e (begin s.disk root) s') (location : Location)
    (hchanged : ¬Option.Rel Disk.Node.Alike (s.disk.top.at? location)
      (s'.disk.top.at? location)) :
    ∃ r bytes, (r, bytes) ∈ s'.left ∧ s.lastLeft r ≠ some bytes ∧
      d.spot? (encode r.target) = some location := by
  induction h' generalizing location with
  | start => exact absurd (Disk.Node.rel_refl _) hchanged
  | @next s₁ s₂ h' step ih =>
    cases (step_iff_moves c.sink).1 step with
    | @task task later summary hphase =>
      cases hgain : task.gain t e s₁.disk <;> rw [hgain] at hchanged <;> exact ih location hchanged
    | arrive hphase => exact ih location hchanged
    | @attempt r rest disk hwait outcome hleave =>
      have hleft := left_attempt s₁ disk rest r outcome
      cases hopened : outcome.left? (encode r.contents) with
      | none =>
        rw [hopened] at hleave hleft
        cases hleave
        rw [hleft]
        simpa using ih location hchanged
      | some bytes =>
        rw [hopened] at hleave hleft
        rw [hleft]
        have hearlier (hbefore : ¬Option.Rel Disk.Node.Alike (s.disk.top.at? location)
            (s₁.disk.top.at? location)) : ∃ r' bytes', (r', bytes') ∈ s₁.left ++ [(r, bytes)] ∧
              s.lastLeft r' ≠ some bytes' ∧ d.spot? (encode r'.target) = some location := by
          obtain ⟨r', bytes', hmem, hother⟩ := ih location hbefore
          exact ⟨r', bytes', List.mem_append_left _ hmem, hother⟩
        have hgrows := (h'.accounts c.sink).grows
        obtain ⟨spot, executable, hwrote⟩ := Disk.exists_wrote hleave
        have hspot : d.spot? (encode r.target) = some spot := by
          rw [← Disk.spot?_eq_of_grows (h.accounts c.sink).grows,
            ← Disk.spot?_eq_of_grows hgrows]
          exact hwrote.spot?_eq
        by_cases hlocation : location = spot
        · subst hlocation
          by_cases hbefore : Option.Rel Disk.Node.Alike (s.disk.top.at? location)
              (s₁.disk.top.at? location)
          · refine ⟨r, bytes, by simp, fun hlast ↦ hchanged ?_, hspot⟩
            have hwrite := h.write_again c hnode hlast hgrows fun spot hspot' ↦ by
              obtain rfl := Option.some.inj (hspot.symm.trans hspot')
              exact hbefore
            obtain rfl := Except.ok.inj (hwrite.symm.trans hleave)
            exact hbefore
          · exact hearlier hbefore
        · exact hearlier fun hrel ↦
            hchanged (Disk.Node.rel_trans hrel (hwrote.replaces.elsewhere location hlocation))

theorem Reachable.disk_eq (h : Reachable t e (begin d root) s)
    (h' : Reachable t e (begin s.disk root) s')
    (hrepeats : ∀ r bytes, (r, bytes) ∈ s'.left → s.lastLeft r = some bytes) :
    s'.disk = s.disk := by
  induction h' with
  | start => rfl
  | @next s₁ s₂ h' step ih =>
    cases (step_iff_moves c.sink).1 step with
    | @task task later summary hphase =>
      cases hgain : task.gain t e s₁.disk <;> rw [hgain] at hrepeats <;> exact ih hrepeats
    | arrive hphase => exact ih hrepeats
    | @attempt r rest disk hwait outcome hleave =>
      rw [left_attempt s₁ disk rest r outcome] at hrepeats
      have hdisk := ih fun r bytes hr ↦ hrepeats r bytes (List.mem_append_left _ hr)
      cases hopened : outcome.left? (encode r.contents) with
      | none =>
        rw [hopened] at hleave
        cases hleave
        exact hdisk
      | some bytes =>
        rw [hopened] at hleave
        have hwrite : s₁.disk.write (encode r.target) bytes = .ok s₁.disk :=
          h.write_again c hnode (hrepeats r bytes (by simp [hopened])) (h'.accounts c.sink).grows
            fun spot _ ↦ hdisk ▸ Disk.Node.rel_refl _
        exact (Except.ok.inj (hleave.symm.trans hwrite)).trans hdisk

end Reachable

end Scene
end StyleTypings.Walk
