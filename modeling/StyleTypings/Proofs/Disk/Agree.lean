import StyleTypings.Proofs.Disk.Route

namespace StyleTypings.Disk

open Text (Bytes)
open Node (Alike)

structure Agree (hidden : Location → Prop) (d d' : Disk) : Prop where
  here_eq : d'.here = d.here
  top (l : Location) : ¬hidden l → Option.Rel Alike (d.top.at? l) (d'.top.at? l)
  barred (l : Location) : ¬hidden l → d'.barred.lookup l = d.barred.lookup l

/-- Two answers to where a path leads that show no difference. -/
inductive Agreed (hidden : Location → Prop) :
    Except Fault Destination → Except Fault Destination → Prop
  | found {l : Location} {n n' : Node} (hl : ¬hidden l) (h : Alike n n') :
      Agreed hidden (.ok (.found l n)) (.ok (.found l n'))
  | missing {l : Location} {slashed : Bool} (hl : ¬hidden l) :
      Agreed hidden (.ok (.missing l slashed)) (.ok (.missing l slashed))
  | error (fault : Fault) : Agreed hidden (.error fault) (.error fault)

section Agree

variable {hidden : Location → Prop} {top top' : Node} {links : Nat} {here : Location}
  {names : List Name}

theorem exists_dir_of_rel {o : Option Node} {es : List (Name × Node)}
    (h : Option.Rel Alike (some (.dir es)) o) : ∃ es', o = some (.dir es') := by
  cases h with
  | @some _ n h => cases n <;> simp_all [Alike]

theorem eq_of_rel {o : Option Node} {n : Node} (h : Option.Rel Alike (some n) o)
    (hn : n.kind ≠ .dir) : o = some n := by
  cases h with
  | some h => rw [h.eq_of_not_dir hn]

section Follow

variable {piece : Name} {rest : List Name} {es : List (Name × Node)}
  (hagree : ∀ l, ¬hidden l → Option.Rel Alike (top.at? l) (top'.at? l))
include hagree

/-- A directory is one on the other tree, too, and the entries that show are alike. -/
theorem exists_dir_of_agree (hd : top.at? here = some (.dir es)) (hhere : ¬hidden here) :
    ∃ es', top'.at? here = some (.dir es') ∧ ∀ piece, ¬hidden (here ++ [piece]) →
      Option.Rel Alike (es.lookup piece) (es'.lookup piece) := by
  obtain ⟨es', hd'⟩ := exists_dir_of_rel (hd ▸ hagree here hhere)
  refine ⟨es', hd', fun piece hthere ↦ ?_⟩
  rw [← Node.at?_append_name hd, ← Node.at?_append_name hd']
  exact hagree _ hthere

theorem agreed_nil (hhere : ¬hidden here) :
    Agreed hidden (follow top true links here []) (follow top' true links here []) := by
  have hrel := hagree here hhere
  rw [follow, follow]
  generalize top.at? here = n at hrel
  generalize top'.at? here = n' at hrel
  cases hrel with
  | none => exact .error _
  | some halike => exact .found hhere halike

theorem agreed_not_dir (hhere : ¬hidden here) (hnot : ∀ es, top.at? here ≠ some (.dir es)) :
    Agreed hidden (follow top true links here (piece :: rest))
      (follow top' true links here (piece :: rest)) := by
  have hrel := hagree here hhere
  rw [follow, follow]
  generalize top.at? here = n at hrel hnot
  generalize top'.at? here = n' at hrel
  cases hrel with
  | none => exact .error _
  | @some n n' halike =>
    cases n with
    | dir es => exact absurd rfl (hnot es)
    | file | link =>
      cases n' with
      | dir => cases halike
      | file | link => exact .error _

/-- Nothing lies behind a file, nor behind an entry that is not there. -/
theorem agreed_last (hd : top.at? here = some (.dir es)) (hp : Entered piece)
    (hhere : ¬hidden here) (hthere : ¬hidden (here ++ [piece]))
    (hnotdir : ∀ fs, es.lookup piece ≠ some (.dir fs))
    (hnotlink : ∀ target, es.lookup piece ≠ some (.link target)) :
    Agreed hidden (follow top true links here (piece :: rest))
      (follow top' true links here (piece :: rest)) := by
  obtain ⟨es', hd', hentries⟩ := exists_dir_of_agree hagree hd hhere
  have hrel := hentries piece hthere
  cases hl : es.lookup piece with
  | none =>
    rw [hl] at hrel
    have hl' : es'.lookup piece = none := by
      generalize es'.lookup piece = o at hrel
      cases hrel
      rfl
    rw [follow_missing hd hp hl, follow_missing hd' hp hl']
    split
    · exact .missing hthere
    · exact .error _
  | some n =>
    cases n with
    | dir fs => exact absurd hl (hnotdir fs)
    | link target => exact absurd hl (hnotlink target)
    | file content executable =>
      have hl' := eq_of_rel (hl ▸ hrel) (by simp [Node.kind])
      rw [follow_file hd hp hl, follow_file hd' hp hl']
      split
      · exact .found hthere (.refl _)
      · exact .error _

theorem agreed_follow (h : ∀ l ∈ route top links here names, ¬hidden l) :
    Agreed hidden (follow top true links here names) (follow top' true links here names) := by
  fun_induction route top links here names with
  | case1 links here => exact agreed_nil hagree (h here (by simp))
  | case2 links here piece rest es hd hp ih =>
    obtain ⟨es', hd', -⟩ := exists_dir_of_agree hagree hd (h here (by simp))
    rw [follow_skip hd hp, follow_skip hd' hp]
    exact ih fun l hl ↦ h l (List.mem_cons_of_mem _ hl)
  | case3 links here piece rest es hd hp hu ih =>
    obtain ⟨es', hd', -⟩ := exists_dir_of_agree hagree hd (h here (by simp))
    rw [follow_up hd hp hu, follow_up hd' hp hu]
    exact ih fun l hl ↦ h l (List.mem_cons_of_mem _ hl)
  | case4 links here piece rest es hd hp hu hs =>
    obtain ⟨es', hd', -⟩ := exists_dir_of_agree hagree hd (h here (by simp))
    rw [follow, follow, hd, hd']
    simp only [hp, hu, hs, if_true, if_false, Bool.false_eq_true]
    exact .error _
  | case5 links here piece rest es hd hp hu hs fs hl ih =>
    obtain ⟨es', hd', hentries⟩ := exists_dir_of_agree hagree hd (h here (by simp))
    obtain ⟨fs', hl'⟩ :=
      exists_dir_of_rel (hl ▸ hentries piece (h (here ++ [piece]) (by simp [mem_route_self])))
    rw [follow_dir hd ⟨hp, hu, hs⟩ hl, follow_dir hd' ⟨hp, hu, hs⟩ hl']
    exact ih fun l hl ↦ h l (List.mem_cons_of_mem _ hl)
  | case6 here piece rest es hd hp hu hs target hl =>
    obtain ⟨es', hd', hentries⟩ := exists_dir_of_agree hagree hd (h here (by simp))
    have hl' :=
      eq_of_rel (hl ▸ hentries piece (h (here ++ [piece]) (by simp))) (by simp [Node.kind])
    rw [follow, follow, hd, hd']
    simp only [hp, hu, hs, hl, hl', if_false, Bool.false_eq_true, Bool.not_true, Bool.and_false]
    exact .error _
  | case7 here piece rest es hd hp hu hs target hl links ih =>
    obtain ⟨es', hd', hentries⟩ := exists_dir_of_agree hagree hd (h here (by simp))
    have hl' :=
      eq_of_rel (hl ▸ hentries piece (h (here ++ [piece]) (by simp))) (by simp [Node.kind])
    rw [follow_link hd ⟨hp, hu, hs⟩ hl (by simp), follow_link hd' ⟨hp, hu, hs⟩ hl' (by simp)]
    exact ih fun l hl ↦ h l (List.mem_cons_of_mem _ (List.mem_cons_of_mem _ hl))
  | case8 links here piece rest es hd hp hu hs hnotdir hnotlink =>
    exact agreed_last hagree hd ⟨hp, hu, hs⟩ (h here (by simp)) (h (here ++ [piece]) (by simp))
      hnotdir hnotlink
  | case9 links here piece rest hnot => exact agreed_not_dir hagree (h here (by simp)) hnot

end Follow

end Agree

section Agree

variable {hidden : Location → Prop} {d d' : Disk} {path : Bytes}

theorem Agree.agreed_lookup (h : Agree hidden d d') (hway : ∀ l ∈ d.way path, ¬hidden l) :
    Agreed hidden (d.lookup path true) (d'.lookup path true) := by
  by_cases hf : Followable path
  · have horigin : d'.origin path = d.origin path := by rw [origin, origin, h.here_eq]
    rw [way_of_followable hf] at hway
    rw [lookup_of_followable hf, lookup_of_followable hf, horigin]
    exact agreed_follow h.top hway
  · unfold lookup
    split
    · exact .error _
    next hempty =>
      split
      · exact .error _
      next hnul =>
        split
        · exact .error _
        next hlong => exact absurd ⟨hempty, hnul, hlong⟩ hf

theorem Agree.bar (h : Agree hidden d d') {barred : List (Location × Fault)}
    (hhidden : ∀ bar ∈ barred, hidden bar.1) :
    Agree hidden d { d' with barred := barred ++ d'.barred } where
  here_eq := h.here_eq
  top := h.top
  barred l hl := by
    have hnone : barred.lookup l = none := List.lookup_eq_none_iff.2 fun bar hm ↦
      bne_iff_ne.2 fun he ↦ hl (he ▸ hhidden bar hm)
    rw [List.lookup_append, hnone, h.barred l hl]
    rfl

theorem Agree.bar?_eq (h : Agree hidden d d') (hway : ∀ l ∈ d.way path, ¬hidden l) :
    d'.bar? path = d.bar? path := by
  have hagreed := h.agreed_lookup hway
  unfold bar?
  generalize d.lookup path true = dest at hagreed
  generalize d'.lookup path true = dest' at hagreed
  cases hagreed with
  | missing | error => rfl
  | found hl => exact h.barred _ hl

theorem Agree.readText_eq (h : Agree hidden d d') (hway : ∀ l ∈ d.way path, ¬hidden l) :
    d'.readText path = d.readText path := by
  have hagreed := h.agreed_lookup hway
  have hbar := h.bar?_eq hway
  unfold readText read contents node
  rw [hbar]
  generalize d.lookup path true = dest at hagreed
  generalize d'.lookup path true = dest' at hagreed
  cases hagreed with
  | missing | error => rfl
  | @found _ n n' _ halike => cases n <;> cases n' <;> simp_all [Alike]

theorem Agree.list_cases (h : Agree hidden d d') (hway : ∀ l ∈ d.way path, ¬hidden l) :
    (∃ fault, d.list path = .error fault ∧ d'.list path = .error fault) ∨
      ∃ l es es', d.lookup path true = .ok (.found l (.dir es)) ∧
        d'.lookup path true = .ok (.found l (.dir es')) ∧
        d.list path = .ok (es.map fun (name, n) ↦ (name, n.kind)) ∧
        d'.list path = .ok (es'.map fun (name, n) ↦ (name, n.kind)) := by
  have hagreed := h.agreed_lookup hway
  have hbar := h.bar?_eq hway
  unfold list node
  rw [hbar]
  generalize d.bar? path = bar
  generalize d.lookup path true = dest at hagreed
  generalize d'.lookup path true = dest' at hagreed
  cases hagreed with
  | missing | error => exact .inl ⟨_, rfl, rfl⟩
  | @found l n n' _ halike =>
    cases n with
    | file | link =>
      rw [halike.eq_of_not_dir (by simp [Node.kind])]
      exact .inl ⟨_, rfl, rfl⟩
    | dir es =>
      cases n' with
      | dir es' =>
        cases bar with
        | some fault => exact .inl ⟨fault, rfl, rfl⟩
        | none => exact .inr ⟨l, es, es', rfl, rfl, rfl, rfl⟩
      | file | link => cases halike

theorem Agree.replaces (h : Agree hidden d d') {n n' m : Node} {spot : Location}
    (hr : Node.Replaces d.top n spot m) (hr' : Node.Replaces d'.top n' spot m) :
    Agree hidden { d with top := n } { d' with top := n' } := by
  refine ⟨h.here_eq, fun l hl ↦ ?_, h.barred⟩
  by_cases hspot : l = spot
  · rw [hspot, hr.here, hr'.here]
    exact Node.rel_refl _
  · exact Node.rel_trans (Node.rel_symm (hr.elsewhere l hspot))
      (Node.rel_trans (h.top l hl) (hr'.elsewhere l hspot))

theorem replaces_missing {spot : Location} {slashed : Bool} {c : Bytes} {executable : Bool}
    (h : d.lookup path true = .ok (.missing spot slashed)) :
    Node.Replaces d.top (d.top.put spot (.file c executable)) spot (.file c executable) := by
  obtain ⟨parent, name, es, rfl, hd, hnone⟩ := (lookup_eq_ok_iff.1 h).2.missing_parent
  exact Node.replaces_put (by simp) hd (by simp [hnone])

theorem Agree.write (h : Agree hidden d d') (hway : ∀ l ∈ d.way path, ¬hidden l) (content : Bytes) :
    (∃ fault, d.write path content = .error fault ∧ d'.write path content = .error fault) ∨
      ∃ e e', d.write path content = .ok e ∧ d'.write path content = .ok e' ∧
        Agree hidden e e' := by
  have hagreed := h.agreed_lookup hway
  unfold Disk.write
  generalize hl : d.lookup path true = dest at hagreed
  generalize hl' : d'.lookup path true = dest' at hagreed
  cases hagreed with
  | error fault => exact .inl ⟨fault, rfl, rfl⟩
  | @missing spot slashed hspot =>
    cases slashed with
    | true => exact .inl ⟨_, rfl, rfl⟩
    | false => exact .inr ⟨_, _, rfl, rfl, h.replaces (replaces_missing hl) (replaces_missing hl')⟩
  | @found spot n n' hspot halike =>
    have hat := (lookup_eq_ok_iff.1 hl).2.at?_eq
    have hat' := (lookup_eq_ok_iff.1 hl').2.at?_eq
    cases n with
    | dir es =>
      obtain ⟨es', rfl⟩ : ∃ es', n' = .dir es' := by cases n' <;> simp_all [Alike]
      exact .inl ⟨_, rfl, rfl⟩
    | link target =>
      rw [halike.eq_of_not_dir (by simp [Node.kind])]
      exact .inl ⟨_, rfl, rfl⟩
    | file c executable =>
      obtain rfl := halike.eq_of_not_dir (by simp [Node.kind])
      exact .inr ⟨_, _, rfl, rfl, h.replaces (replaces_file hat) (replaces_file hat')⟩

end Agree
end StyleTypings.Disk
