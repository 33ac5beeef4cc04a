import StyleTypings.Disk.Lookup
import StyleTypings.Proofs.Disk.Tree

namespace StyleTypings.Disk

open Text (Bytes)
open Node (Akin Grew Grown)

section Single

variable {top : Node} {followLast : Bool} {links : Nat} {here : Location} {piece : Name}
  {rest : List Name} {es : List (Name × Node)}

structure Entered (piece : Name) : Prop where
  not_here : ¬(piece == [] || piece == [46]) = true
  not_up : ¬(piece == [46, 46]) = true
  short : ¬piece.length > longestName

variable (hd : top.at? here = some (.dir es))
include hd

theorem follow_skip (hp : (piece == [] || piece == [46]) = true) :
    follow top followLast links here (piece :: rest) = follow top followLast links here rest := by
  rw [follow, hd]
  simp only [hp, if_true]

theorem follow_up (hp : ¬(piece == [] || piece == [46]) = true)
    (hu : (piece == [46, 46]) = true) :
    follow top followLast links here (piece :: rest) =
      follow top followLast links here.dropLast rest := by
  rw [follow, hd]
  simp only [hp, hu, if_true, if_false, Bool.false_eq_true]

theorem follow_missing (hp : Entered piece) (hl : es.lookup piece = none) :
    follow top followLast links here (piece :: rest) =
      if rest.all (· == []) then .ok (.missing (here ++ [piece]) (rest != []))
      else .error .noEntry := by
  rw [follow, hd]
  simp only [hp.not_here, hp.not_up, hp.short, if_false, Bool.false_eq_true, hl]

theorem follow_dir (hp : Entered piece) {fs : List (Name × Node)}
    (hl : es.lookup piece = some (.dir fs)) :
    follow top followLast links here (piece :: rest) =
      follow top followLast links (here ++ [piece]) rest := by
  rw [follow, hd]
  simp only [hp.not_here, hp.not_up, hp.short, if_false, Bool.false_eq_true, hl]

theorem follow_file (hp : Entered piece) {content : Bytes} {executable : Bool}
    (hl : es.lookup piece = some (.file content executable)) :
    follow top followLast links here (piece :: rest) =
      if rest == [] then .ok (.found (here ++ [piece]) (.file content executable))
      else .error .notDirectory := by
  rw [follow, hd]
  simp only [hp.not_here, hp.not_up, hp.short, if_false, Bool.false_eq_true, hl]

theorem follow_link_last (hp : Entered piece) {target : Bytes}
    (hl : es.lookup piece = some (.link target)) (hr : (rest == [] && !followLast) = true) :
    follow top followLast links here (piece :: rest) =
      .ok (.found (here ++ [piece]) (.link target)) := by
  rw [follow, hd]
  simp only [hp.not_here, hp.not_up, hp.short, if_false, Bool.false_eq_true, hl, hr, if_true]

theorem follow_link (hp : Entered piece) {target : Bytes}
    (hl : es.lookup piece = some (.link target)) (hr : ¬(rest == [] && !followLast) = true) :
    follow top followLast (links + 1) here (piece :: rest) =
      follow top followLast links (if isAbsolute target then [] else here)
        (pieces target ++ rest) := by
  rw [follow, hd]
  simp only [hp.not_here, hp.not_up, hp.short, if_false, Bool.false_eq_true, hl, hr]

end Single

theorem follow_nil {top n : Node} {followLast : Bool} {links : Nat} {here : Location}
    (h : top.at? here = some n) : follow top followLast links here [] = .ok (.found here n) := by
  rw [follow, h]

/-- The ways that names lead, without those that break off. -/
inductive Leads (top : Node) (followLast : Bool) :
    Nat → Location → List Name → Destination → Prop
  | arrived {links : Nat} {here : Location} {n : Node} (h : top.at? here = some n) :
      Leads top followLast links here [] (.found here n)
  | skip {links : Nat} {here : Location} {piece : Name} {rest : List Name}
      {es : List (Name × Node)} {dest : Destination} (hd : top.at? here = some (.dir es))
      (hp : (piece == [] || piece == [46]) = true) (h : Leads top followLast links here rest dest) :
      Leads top followLast links here (piece :: rest) dest
  | up {links : Nat} {here : Location} {piece : Name} {rest : List Name}
      {es : List (Name × Node)} {dest : Destination} (hd : top.at? here = some (.dir es))
      (hp : ¬(piece == [] || piece == [46]) = true) (hu : (piece == [46, 46]) = true)
      (h : Leads top followLast links here.dropLast rest dest) :
      Leads top followLast links here (piece :: rest) dest
  | missing {links : Nat} {here : Location} {piece : Name} {rest : List Name}
      {es : List (Name × Node)} (hd : top.at? here = some (.dir es)) (hp : Entered piece)
      (hl : es.lookup piece = none) (hr : rest.all (· == []) = true) :
      Leads top followLast links here (piece :: rest) (.missing (here ++ [piece]) (rest != []))
  | dir {links : Nat} {here : Location} {piece : Name} {rest : List Name}
      {es fs : List (Name × Node)} {dest : Destination} (hd : top.at? here = some (.dir es))
      (hp : Entered piece) (hl : es.lookup piece = some (.dir fs))
      (h : Leads top followLast links (here ++ [piece]) rest dest) :
      Leads top followLast links here (piece :: rest) dest
  | file {links : Nat} {here : Location} {piece : Name} {es : List (Name × Node)}
      {content : Bytes} {executable : Bool} (hd : top.at? here = some (.dir es))
      (hp : Entered piece) (hl : es.lookup piece = some (.file content executable)) :
      Leads top followLast links here [piece]
        (.found (here ++ [piece]) (.file content executable))
  | linkLast {links : Nat} {here : Location} {piece : Name} {es : List (Name × Node)}
      {target : Bytes} (hd : top.at? here = some (.dir es)) (hp : Entered piece)
      (hl : es.lookup piece = some (.link target)) (hf : followLast = false) :
      Leads top followLast links here [piece] (.found (here ++ [piece]) (.link target))
  | link {links : Nat} {here : Location} {piece : Name} {rest : List Name}
      {es : List (Name × Node)} {target : Bytes} {dest : Destination}
      (hd : top.at? here = some (.dir es)) (hp : Entered piece)
      (hl : es.lookup piece = some (.link target)) (hr : ¬(rest == [] && !followLast) = true)
      (h : Leads top followLast links (if isAbsolute target then [] else here)
        (pieces target ++ rest) dest) :
      Leads top followLast (links + 1) here (piece :: rest) dest

variable {top : Node} {followLast : Bool} {links : Nat} {here : Location} {names : List Name}
  {dest : Destination}

theorem Leads.follow_eq (h : Leads top followLast links here names dest) :
    follow top followLast links here names = .ok dest := by
  induction h with
  | arrived h => exact follow_nil h
  | skip hd hp _ ih => rw [follow_skip hd hp, ih]
  | up hd hp hu _ ih => rw [follow_up hd hp hu, ih]
  | missing hd hp hl hr => rw [follow_missing hd hp hl, if_pos hr]
  | dir hd hp hl _ ih => rw [follow_dir hd hp hl, ih]
  | file hd hp hl =>
    rw [follow_file hd hp hl]
    rfl
  | linkLast hd hp hl hf => rw [follow_link_last hd hp hl (by simp [hf])]
  | link hd hp hl hr _ ih => rw [follow_link hd hp hl hr, ih]

theorem leads_of_follow (h : follow top followLast links here names = .ok dest) :
    Leads top followLast links here names dest := by
  fun_induction follow top followLast links here names with
  | case1 links here n hn =>
    cases h
    exact .arrived hn
  | case3 links here piece rest es hd hp ih => exact .skip hd hp (ih h)
  | case4 links here piece rest es hd hp hu ih => exact .up hd hp hu (ih h)
  | case6 links here piece rest es hd hp hu hs there hl hr =>
    cases h
    exact .missing hd ⟨hp, hu, hs⟩ hl hr
  | case8 links here piece rest es hd hp hu hs there fs hl ih =>
    exact .dir hd ⟨hp, hu, hs⟩ hl (ih h)
  | case9 links here piece rest es hd hp hu hs there content executable hl hr =>
    cases h
    obtain rfl : rest = [] := eq_of_beq hr
    exact .file hd ⟨hp, hu, hs⟩ hl
  | case11 links here piece rest es hd hp hu hs there target hl hr =>
    cases h
    simp only [Bool.and_eq_true, beq_iff_eq, Bool.not_eq_true'] at hr
    obtain ⟨rfl, hf⟩ := hr
    exact .linkLast hd ⟨hp, hu, hs⟩ hl hf
  | case13 here piece rest es hd hp hu hs target hl hr links ih =>
    exact .link hd ⟨hp, hu, hs⟩ hl hr (ih h)
  | case2 | case5 | case7 | case10 | case12 | case14 | case15 => cases h

theorem Leads.at?_eq {location : Location} {n : Node}
    (h : Leads top followLast links here names (.found location n)) :
    top.at? location = some n := by
  generalize hdest : Destination.found location n = dest at h
  induction h with
  | arrived h =>
    cases hdest
    exact h
  | skip _ _ _ ih | up _ _ _ _ ih | dir _ _ _ _ ih | link _ _ _ _ _ ih => exact ih hdest
  | missing => cases hdest
  | file hd _ hl | linkLast hd _ hl =>
    cases hdest
    rw [Node.at?_append_name hd, hl]

theorem Leads.missing_parent {location : Location} {slashed : Bool}
    (h : Leads top followLast links here names (.missing location slashed)) :
    ∃ parent name es, location = parent ++ [name] ∧ top.at? parent = some (.dir es) ∧
      es.lookup name = none := by
  generalize hdest : Destination.missing location slashed = dest at h
  induction h with
  | arrived | file | linkLast => cases hdest
  | skip _ _ _ ih | up _ _ _ _ ih | dir _ _ _ _ ih | link _ _ _ _ _ ih => exact ih hdest
  | missing hd _ hl =>
    cases hdest
    exact ⟨_, _, _, rfl, hd, hl⟩

theorem Leads.followLast_true {location : Location} {n : Node} (hn : n.kind ≠ .link)
    (h : Leads top false links here names (.found location n)) :
    Leads top true links here names (.found location n) := by
  generalize hdest : Destination.found location n = dest at h
  induction h with
  | arrived h => exact .arrived h
  | skip hd hp _ ih => exact .skip hd hp (ih hdest)
  | up hd hp hu _ ih => exact .up hd hp hu (ih hdest)
  | missing hd hp hl hr => exact .missing hd hp hl hr
  | dir hd hp hl _ ih => exact .dir hd hp hl (ih hdest)
  | file hd hp hl => exact .file hd hp hl
  | linkLast =>
    cases hdest
    exact absurd rfl hn
  | link hd hp hl _ _ ih => exact .link hd hp hl (by simp) (ih hdest)

theorem Leads.follow_append {location : Location} {es : List (Name × Node)} {more : List Name}
    (h : Leads top true links here names (.found location (.dir es))) (hm : more ≠ []) :
    ∃ left, follow top followLast links here (names ++ more) =
      follow top followLast left location more := by
  generalize hdest : Destination.found location (.dir es) = dest at h
  induction h with
  | @arrived links =>
    cases hdest
    exact ⟨links, rfl⟩
  | skip hd hp _ ih =>
    obtain ⟨left, hf⟩ := ih hdest
    exact ⟨left, (follow_skip hd hp).trans hf⟩
  | up hd hp hu _ ih =>
    obtain ⟨left, hf⟩ := ih hdest
    exact ⟨left, (follow_up hd hp hu).trans hf⟩
  | missing | file => cases hdest
  | dir hd hp hl _ ih =>
    obtain ⟨left, hf⟩ := ih hdest
    exact ⟨left, (follow_dir hd hp hl).trans hf⟩
  | linkLast _ _ _ hf => cases hf
  | @link links here piece rest es' target dest hd hp hl _ _ ih =>
    obtain ⟨left, hf⟩ := ih hdest
    have hr : ¬((rest ++ more) == [] && !followLast) = true := by simp [hm]
    refine ⟨left, (follow_link hd hp hl hr).trans ?_⟩
    rw [← List.append_assoc]
    exact hf

section Grown

variable {new : Location → Prop} {top' : Node}

theorem dir_of_grown (hg : Grown new top top') {es : List (Name × Node)}
    (hd : top.at? here = some (.dir es)) :
    ∃ es', top'.at? here = some (.dir es') ∧
      ∀ piece, Grew (new (here ++ [piece])) (es.lookup piece) (es'.lookup piece) := by
  have hgrew := hg here
  rw [hd] at hgrew
  obtain ⟨es', hd'⟩ := hgrew.dir_iff.1 ⟨es, rfl⟩
  refine ⟨es', hd', fun piece ↦ ?_⟩
  rw [← Node.at?_append_name hd, ← Node.at?_append_name hd']
  exact hg _

/-- Where a path leads after the tree has grown, given where it led before. -/
inductive Moved (top' : Node) : Destination → Destination → Prop
  | found {location : Location} {n n' : Node} (h : top'.at? location = some n') :
      Moved top' (.found location n) (.found location n')
  | made {location : Location} {n : Node} (h : top'.at? location = some n) :
      Moved top' (.missing location false) (.found location n)
  | missing {location : Location} {slashed : Bool} (h : top'.at? location = none) :
      Moved top' (.missing location slashed) (.missing location slashed)

/-- A path leads to the same location when the tree has grown, unless a file was made in place of
what slashes follow. -/
theorem Leads.of_grown (hg : Grown new top top')
    (hdest : ∀ location, dest = .missing location true → top'.at? location = none)
    (h : Leads top followLast links here names dest) :
    ∃ dest', Moved top' dest dest' ∧ Leads top' followLast links here names dest' := by
  induction h with
  | @arrived links here n hn =>
    have hgrew := hg here
    rw [hn] at hgrew
    generalize hn' : top'.at? here = found at hgrew
    cases hgrew with
    | some _ => exact ⟨_, .found hn', .arrived hn'⟩
  | skip hd hp _ ih =>
    obtain ⟨dest', hm, hl⟩ := ih hdest
    obtain ⟨es', hd', -⟩ := dir_of_grown hg hd
    exact ⟨dest', hm, .skip hd' hp hl⟩
  | up hd hp hu _ ih =>
    obtain ⟨dest', hm, hl⟩ := ih hdest
    obtain ⟨es', hd', -⟩ := dir_of_grown hg hd
    exact ⟨dest', hm, .up hd' hp hu hl⟩
  | @missing links here piece rest es hd hp hl hr =>
    obtain ⟨es', hd', hentries⟩ := dir_of_grown hg hd
    have hgrew := hentries piece
    rw [hl] at hgrew
    generalize hl' : es'.lookup piece = found at hgrew
    cases hgrew with
    | none =>
      exact ⟨_, .missing (by rw [Node.at?_append_name hd', hl']), .missing hd' hp hl' hr⟩
    | @made c x _ =>
      have hat : top'.at? (here ++ [piece]) = some (.file c x) := by
        rw [Node.at?_append_name hd', hl']
      obtain rfl : rest = [] := Classical.byContradiction fun hne ↦ by
        have := hdest _ (by rw [bne_iff_ne.2 hne])
        rw [hat] at this
        cases this
      exact ⟨_, .made hat, .file hd' hp hl'⟩
  | @dir links here piece rest es fs dest hd hp hl _ ih =>
    obtain ⟨dest', hm, hlead⟩ := ih hdest
    obtain ⟨es', hd', hentries⟩ := dir_of_grown hg hd
    obtain ⟨fs', hl'⟩ := (hentries piece).dir_iff.1 ⟨fs, hl⟩
    exact ⟨dest', hm, .dir hd' hp hl' hlead⟩
  | @file links here piece es c x hd hp hl =>
    obtain ⟨es', hd', hentries⟩ := dir_of_grown hg hd
    have hgrew := hentries piece
    rw [hl] at hgrew
    generalize hl' : es'.lookup piece = found at hgrew
    cases hgrew with
    | some ha =>
      cases ha with
      | file =>
        exact ⟨_, .found (by rw [Node.at?_append_name hd', hl']), .file hd' hp hl'⟩
  | @linkLast links here piece es target hd hp hl hf =>
    obtain ⟨es', hd', hentries⟩ := dir_of_grown hg hd
    have hl' := ((hentries piece).link_iff target).1 hl
    exact ⟨_, .found (by rw [Node.at?_append_name hd', hl']), .linkLast hd' hp hl' hf⟩
  | @link links here piece rest es target dest hd hp hl hr _ ih =>
    obtain ⟨dest', hm, hlead⟩ := ih hdest
    obtain ⟨es', hd', hentries⟩ := dir_of_grown hg hd
    exact ⟨dest', hm, .link hd' hp (((hentries piece).link_iff target).1 hl) hr hlead⟩

theorem dir_of_grown_back (hg : Grown new top top') {es' : List (Name × Node)}
    (hd' : top'.at? here = some (.dir es')) : ∃ es, top.at? here = some (.dir es) ∧
      ∀ piece, Grew (new (here ++ [piece])) (es.lookup piece) (es'.lookup piece) := by
  obtain ⟨es, hd⟩ := (hg here).dir_iff.2 ⟨es', hd'⟩
  refine ⟨es, hd, fun piece ↦ ?_⟩
  rw [← Node.at?_append_name hd, ← Node.at?_append_name hd']
  exact hg _

theorem Leads.of_grown_back {dest' : Destination} (hg : Grown new top top')
    (hhere : top.at? here ≠ none) (h : Leads top' followLast links here names dest') :
    ∃ dest, Moved top' dest dest' ∧ Leads top followLast links here names dest := by
  induction h with
  | @arrived links here n hn =>
    obtain ⟨m, hm⟩ := Option.ne_none_iff_exists'.1 hhere
    exact ⟨_, .found hn, .arrived hm⟩
  | skip hd' hp _ ih =>
    obtain ⟨dest, hm, hl⟩ := ih hhere
    obtain ⟨es, hd, -⟩ := dir_of_grown_back hg hd'
    exact ⟨dest, hm, .skip hd hp hl⟩
  | @up links here piece rest es' dest' hd' hp hu _ ih =>
    obtain ⟨es, hd, -⟩ := dir_of_grown_back hg hd'
    obtain ⟨dest, hm, hl⟩ := ih (Node.at?_dropLast_ne_none hd)
    exact ⟨dest, hm, .up hd hp hu hl⟩
  | @missing links here piece rest es' hd' hp hl' hr =>
    obtain ⟨es, hd, hentries⟩ := dir_of_grown_back hg hd'
    have hgrew := hentries piece
    rw [hl'] at hgrew
    generalize hl : es.lookup piece = found at hgrew
    cases hgrew with
    | none =>
      exact ⟨_, .missing (by rw [Node.at?_append_name hd', hl']), .missing hd hp hl hr⟩
  | @dir links here piece rest es' fs' dest' hd' hp hl' _ ih =>
    obtain ⟨es, hd, hentries⟩ := dir_of_grown_back hg hd'
    obtain ⟨fs, hl⟩ := (hentries piece).dir_iff.2 ⟨fs', hl'⟩
    obtain ⟨dest, hm, hlead⟩ := ih (by simp [Node.at?_append_name hd, hl])
    exact ⟨dest, hm, .dir hd hp hl hlead⟩
  | @file links here piece es' c' x' hd' hp hl' =>
    obtain ⟨es, hd, hentries⟩ := dir_of_grown_back hg hd'
    have hat : top'.at? (here ++ [piece]) = some (.file c' x') := by
      rw [Node.at?_append_name hd', hl']
    have hgrew := hentries piece
    rw [hl'] at hgrew
    generalize hl : es.lookup piece = found at hgrew
    cases hgrew with
    | some ha =>
      cases ha with
      | file => exact ⟨_, .found hat, .file hd hp hl⟩
    | made => exact ⟨_, .made hat, .missing hd hp hl rfl⟩
  | @linkLast links here piece es' target hd' hp hl' hf =>
    obtain ⟨es, hd, hentries⟩ := dir_of_grown_back hg hd'
    have hl := ((hentries piece).link_iff target).2 hl'
    exact ⟨_, .found (by rw [Node.at?_append_name hd', hl']), .linkLast hd hp hl hf⟩
  | @link links here piece rest es' target dest' hd' hp hl' hr _ ih =>
    obtain ⟨es, hd, hentries⟩ := dir_of_grown_back hg hd'
    have hstart : top.at? (if isAbsolute target then [] else here) ≠ none := by
      split
      · simp
      · simp [hd]
    obtain ⟨dest, hm, hlead⟩ := ih hstart
    exact ⟨dest, hm, .link hd hp (((hentries piece).link_iff target).2 hl') hr hlead⟩

end Grown

end StyleTypings.Disk
