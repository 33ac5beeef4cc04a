import StyleTypings.Proofs.Disk.Below

namespace StyleTypings.Disk

open Text (Bytes)

/-- The locations that names lead through, as far as they can be followed. -/
def route (top : Node) (links : Nat) (here : Location) : List Name → List Location
  | [] => [here]
  | piece :: rest =>
    match top.at? here with
    | some (.dir es) =>
      if piece == [] || piece == [46] then here :: route top links here rest
      else if piece == [46, 46] then here :: route top links here.dropLast rest
      else if piece.length > longestName then [here]
      else
        match es.lookup piece with
        | some (.dir _) => here :: route top links (here ++ [piece]) rest
        | some (.link target) =>
          match links with
          | 0 => [here, here ++ [piece]]
          | links + 1 => here :: (here ++ [piece]) ::
              route top links (if isAbsolute target then [] else here) (pieces target ++ rest)
        | _ => [here, here ++ [piece]]
    | _ => [here]
termination_by names => (links, names.length)

def way (d : Disk) (path : Bytes) : List Location :=
  if path == [] || path.contains 0 || path.length > longestPath then []
  else route d.top mostLinks (d.origin path) (pieces path)

theorem way_of_followable {path : Bytes} (h : Followable path) (d : Disk) :
    d.way path = route d.top mostLinks (d.origin path) (pieces path) := by
  simp only [way, h.not_empty, h.no_nul, h.short, decide_false, Bool.false_or, Bool.false_eq_true,
    if_false]

theorem way_of_not_followable {path : Bytes} (h : ¬Followable path) (d : Disk) :
    d.way path = [] := by
  unfold way
  split
  · rfl
  next hnot =>
    simp only [Bool.or_eq_true, decide_eq_true_eq, not_or] at hnot
    exact absurd ⟨hnot.1.1, hnot.1.2, hnot.2⟩ h

section Single

variable {top : Node} {links : Nat} {here : Location} {piece : Name} {rest : List Name}
  {es : List (Name × Node)}

theorem route_nil : route top links here [] = [here] := by rw [route]

theorem mem_route_self (names : List Name) : here ∈ route top links here names := by
  unfold route
  repeat' split
  all_goals simp

theorem route_of_not_dir (h : ∀ es, top.at? here ≠ some (.dir es)) :
    route top links here (piece :: rest) = [here] := by
  rw [route]
  split
  next es hd => exact absurd hd (h es)
  · rfl

variable (hd : top.at? here = some (.dir es))
include hd

theorem route_skip (hp : (piece == [] || piece == [46]) = true) :
    route top links here (piece :: rest) = here :: route top links here rest := by
  rw [route, hd]
  simp only [hp, if_true]

theorem route_up (hp : ¬(piece == [] || piece == [46]) = true) (hu : (piece == [46, 46]) = true) :
    route top links here (piece :: rest) = here :: route top links here.dropLast rest := by
  rw [route, hd]
  simp only [hp, hu, if_true, if_false, Bool.false_eq_true]

theorem route_too_long (hp : ¬(piece == [] || piece == [46]) = true)
    (hu : ¬(piece == [46, 46]) = true) (hs : piece.length > longestName) :
    route top links here (piece :: rest) = [here] := by
  rw [route, hd]
  simp only [hp, hu, hs, if_true, if_false, Bool.false_eq_true]

theorem route_dir (hp : Entered piece) {fs : List (Name × Node)}
    (hl : es.lookup piece = some (.dir fs)) :
    route top links here (piece :: rest) = here :: route top links (here ++ [piece]) rest := by
  rw [route, hd]
  simp only [hp.not_here, hp.not_up, hp.short, if_false, Bool.false_eq_true, hl]

theorem route_link_zero (hp : Entered piece) {target : Bytes}
    (hl : es.lookup piece = some (.link target)) :
    route top 0 here (piece :: rest) = [here, here ++ [piece]] := by
  rw [route, hd]
  simp only [hp.not_here, hp.not_up, hp.short, if_false, Bool.false_eq_true, hl]

theorem route_link (hp : Entered piece) {target : Bytes}
    (hl : es.lookup piece = some (.link target)) :
    route top (links + 1) here (piece :: rest) = here :: (here ++ [piece]) ::
      route top links (if isAbsolute target then [] else here) (pieces target ++ rest) := by
  rw [route, hd]
  simp only [hp.not_here, hp.not_up, hp.short, if_false, Bool.false_eq_true, hl]

theorem route_last (hp : Entered piece) (hdir : ∀ fs, es.lookup piece ≠ some (.dir fs))
    (hlink : ∀ target, es.lookup piece ≠ some (.link target)) :
    route top links here (piece :: rest) = [here, here ++ [piece]] := by
  rw [route, hd]
  simp only [hp.not_here, hp.not_up, hp.short, if_false, Bool.false_eq_true]

end Single

/-- A place is a directory on both of two trees, or a link that says the same, or neither on
both. -/
structure Stays (top top' : Node) (l : Location) : Prop where
  dir_iff : (∃ es, top.at? l = some (.dir es)) ↔ ∃ es, top'.at? l = some (.dir es)
  link_iff (target : Bytes) :
    top.at? l = some (.link target) ↔ top'.at? l = some (.link target)

section Stays

variable {top top' : Node} {links : Nat} {here : Location} {piece : Name} {names : List Name}
  {es es' : List (Name × Node)}

theorem Stays.exists_dir (h : Stays top top' here) (hd : top.at? here = some (.dir es)) :
    ∃ es', top'.at? here = some (.dir es') :=
  h.dir_iff.1 ⟨es, hd⟩

theorem Stays.entry (h : Stays top top' (here ++ [piece])) (hd : top.at? here = some (.dir es))
    (hd' : top'.at? here = some (.dir es')) :
    ((∃ fs, es.lookup piece = some (.dir fs)) ↔ ∃ fs, es'.lookup piece = some (.dir fs)) ∧
      ∀ target, es.lookup piece = some (.link target) ↔ es'.lookup piece = some (.link target) := by
  rw [← Node.at?_append_name hd, ← Node.at?_append_name hd']
  exact ⟨h.dir_iff, h.link_iff⟩

theorem route_eq_of_stays (h : ∀ l ∈ route top links here names, Stays top top' l) :
    route top' links here names = route top links here names := by
  fun_induction route top links here names with
  | case1 => exact route_nil
  | case2 links here piece rest es hd hp ih =>
    obtain ⟨es', hd'⟩ := (h here (by simp)).exists_dir hd
    rw [route_skip hd' hp, ih fun l hl ↦ h l (List.mem_cons_of_mem _ hl)]
  | case3 links here piece rest es hd hp hu ih =>
    obtain ⟨es', hd'⟩ := (h here (by simp)).exists_dir hd
    rw [route_up hd' hp hu, ih fun l hl ↦ h l (List.mem_cons_of_mem _ hl)]
  | case4 links here piece rest es hd hp hu hs =>
    obtain ⟨es', hd'⟩ := (h here (by simp)).exists_dir hd
    rw [route_too_long hd' hp hu hs]
  | case5 links here piece rest es hd hp hu hs fs hl ih =>
    obtain ⟨es', hd'⟩ := (h here (by simp)).exists_dir hd
    obtain ⟨hdir, -⟩ := (h (here ++ [piece]) (by simp [mem_route_self])).entry hd hd'
    obtain ⟨fs', hl'⟩ := hdir.1 ⟨fs, hl⟩
    rw [route_dir hd' ⟨hp, hu, hs⟩ hl', ih fun l hl ↦ h l (List.mem_cons_of_mem _ hl)]
  | case6 here piece rest es hd hp hu hs target hl =>
    obtain ⟨es', hd'⟩ := (h here (by simp)).exists_dir hd
    obtain ⟨-, hlink⟩ := (h (here ++ [piece]) (by simp)).entry hd hd'
    rw [route_link_zero hd' ⟨hp, hu, hs⟩ ((hlink target).1 hl)]
  | case7 here piece rest es hd hp hu hs target hl links ih =>
    obtain ⟨es', hd'⟩ := (h here (by simp)).exists_dir hd
    obtain ⟨-, hlink⟩ := (h (here ++ [piece]) (by simp)).entry hd hd'
    rw [route_link hd' ⟨hp, hu, hs⟩ ((hlink target).1 hl)]
    exact congrArg (here :: (here ++ [piece]) :: ·) (ih fun l hl ↦
      h l (List.mem_cons_of_mem _ (List.mem_cons_of_mem _ hl)))
  | case8 links here piece rest es hd hp hu hs hdir hlink =>
    obtain ⟨es', hd'⟩ := (h here (by simp)).exists_dir hd
    obtain ⟨hdirs, hlinks⟩ := (h (here ++ [piece]) (by simp)).entry hd hd'
    refine route_last hd' ⟨hp, hu, hs⟩ (fun fs hl ↦ ?_) fun target hl ↦
      hlink target ((hlinks target).2 hl)
    obtain ⟨fs, hl⟩ := hdirs.2 ⟨fs, hl⟩
    exact hdir fs hl
  | case9 links here piece rest hnot =>
    refine route_of_not_dir fun es' hd' ↦ ?_
    obtain ⟨es, hd⟩ := (h here (by simp)).dir_iff.2 ⟨es', hd'⟩
    exact hnot es hd

end Stays

/-- Ways stay while files are written and made. -/
theorem way_eq_of_grows {new : Location → Prop} {d d' : Disk} (h : Grows new d d') (path : Bytes) :
    d'.way path = d.way path := by
  unfold way
  rw [h.origin_eq]
  split
  · rfl
  · exact route_eq_of_stays fun l _ ↦ ⟨(h.top l).dir_iff, (h.top l).link_iff⟩

theorem Leads.mem_route_append {top : Node} {links : Nat} {here location : Location}
    {names : List Name} {es : List (Name × Node)}
    (h : Leads top true links here names (.found location (.dir es))) (more : List Name) :
    ∃ left, ∀ l, l ∈ route top links here (names ++ more) ↔
      l ∈ route top links here names ∨ l ∈ route top left location more := by
  generalize hdest : Destination.found location (.dir es) = dest at h
  induction h with
  | @arrived links =>
    cases hdest
    refine ⟨links, fun l ↦ ⟨.inr, fun hl ↦ hl.elim (fun hl ↦ ?_) id⟩⟩
    rw [route_nil, List.mem_singleton] at hl
    exact hl ▸ mem_route_self more
  | skip hd hp _ ih =>
    obtain ⟨left, hleft⟩ := ih hdest
    refine ⟨left, fun l ↦ ?_⟩
    rw [List.cons_append, route_skip hd hp, route_skip hd hp, List.mem_cons, List.mem_cons, hleft,
      or_assoc]
  | up hd hp hu _ ih =>
    obtain ⟨left, hleft⟩ := ih hdest
    refine ⟨left, fun l ↦ ?_⟩
    rw [List.cons_append, route_up hd hp hu, route_up hd hp hu, List.mem_cons, List.mem_cons,
      hleft, or_assoc]
  | dir hd hp hl _ ih =>
    obtain ⟨left, hleft⟩ := ih hdest
    refine ⟨left, fun l ↦ ?_⟩
    rw [List.cons_append, route_dir hd hp hl, route_dir hd hp hl, List.mem_cons, List.mem_cons,
      hleft, or_assoc]
  | link hd hp hl _ _ ih =>
    obtain ⟨left, hleft⟩ := ih hdest
    refine ⟨left, fun l ↦ ?_⟩
    rw [List.cons_append, route_link hd hp hl, route_link hd hp hl, ← List.append_assoc]
    simp only [List.mem_cons, hleft, or_assoc]
  | missing | file | linkLast => cases hdest

theorem exists_mem_way_join {d : Disk} {path : Bytes} {name : Name} {location : Location}
    {es : List (Name × Node)} (hpath : d.lookup path true = .ok (.found location (.dir es)))
    (hname : Plain name) : ∃ left, ∀ l ∈ d.way (join path name),
      l ∈ d.way path ∨ l ∈ route d.top left location [name] := by
  have hne := ne_nil_of_lookup hpath
  obtain ⟨hfollow, hleads⟩ := lookup_eq_ok_iff.1 hpath
  by_cases hf : Followable (join path name)
  · have horigin : d.origin (join path name) = d.origin path := by
      simp only [origin, isAbsolute_join hne hname]
    rw [way_of_followable hf, way_of_followable hfollow, horigin]
    rcases join_cases hne hname with ⟨front, rfl, hjoin⟩ | hjoin
    · rw [hjoin, pieces_append_slash, pieces_of_no_slash hname.no_slash]
      rw [pieces_append_slash] at hleads ⊢
      have hfront := Leads.of_append_nil hleads
      obtain ⟨left, hleft⟩ := hfront.mem_route_append [name]
      obtain ⟨_, hmore⟩ := hfront.mem_route_append (pieces [])
      refine ⟨left, fun l hl ↦ ((hleft l).1 hl).imp_left fun hl ↦ (hmore l).2 (.inl hl)⟩
    · rw [hjoin, pieces_append_slash, pieces_of_no_slash hname.no_slash]
      obtain ⟨left, hleft⟩ := hleads.mem_route_append [name]
      exact ⟨left, fun l ↦ (hleft l).1⟩
  · exact ⟨0, fun l hl ↦ by simp [way_of_not_followable hf] at hl⟩

theorem mem_route_entry {top : Node} {links : Nat} {here : Location} {name : Name}
    {es : List (Name × Node)} (hd : top.at? here = some (.dir es)) (hname : Plain name)
    (hlink : ∀ target, es.lookup name ≠ some (.link target)) {l : Location}
    (h : l ∈ route top links here [name]) : l = here ∨ l = here ++ [name] := by
  by_cases hs : name.length > longestName
  · rw [route_too_long hd (by simp [hname.not_empty, hname.not_dot]) (by simp [hname.not_dots]) hs,
      List.mem_singleton] at h
    exact .inl h
  · have hp := hname.entered (by omega)
    by_cases hdir : ∃ fs, es.lookup name = some (.dir fs)
    · obtain ⟨fs, hl⟩ := hdir
      rw [route_dir hd hp hl, route_nil] at h
      simpa using h
    · rw [route_last hd hp (fun fs hl ↦ hdir ⟨fs, hl⟩) hlink] at h
      simpa using h

end StyleTypings.Disk
