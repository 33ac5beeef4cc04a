import StyleTypings.Proofs.Disk.Spots
import StyleTypings.Proofs.Disk.WellFormed

namespace StyleTypings.Disk

open Text (Bytes)

theorem pieces_append_slash (a b : Bytes) : pieces (a ++ slash :: b) = pieces a ++ pieces b := by
  induction a with
  | nil => simp [pieces]
  | cons c a ih =>
    simp only [List.cons_append, pieces, ih]
    split
    · rfl
    · cases hp : pieces a with
      | nil => exact absurd hp (pieces_ne_nil a)
      | cons p ps => rfl

theorem pieces_of_no_slash {name : Name} (h : slash ∉ name) : pieces name = [name] := by
  induction name with
  | nil => rfl
  | cons b name ih =>
    simp only [List.mem_cons, not_or] at h
    have hb : (b == slash) = false := beq_eq_false_iff_ne.2 (Ne.symm h.1)
    simp only [pieces, hb, ih h.2]
    rfl

theorem isAbsolute_of_plain {name : Name} (h : Plain name) : isAbsolute name = false := by
  cases name with
  | nil => rfl
  | cons b name =>
    have hb : b ≠ slash := fun he ↦ h.no_slash (he ▸ List.mem_cons_self ..)
    simp [isAbsolute, hb]

theorem join_cases {path : Bytes} (hpath : path ≠ []) {name : Name} (hname : Plain name) :
    (∃ front, path = front ++ [slash] ∧ join path name = front ++ slash :: name) ∨
      join path name = path ++ slash :: name := by
  unfold join
  rw [isAbsolute_of_plain hname]
  simp only [Bool.false_eq_true, if_false]
  split
  next h =>
    obtain ⟨front, last, rfl⟩ := (List.eq_nil_or_concat path).resolve_left hpath
    simp only [List.concat_eq_append, List.getLast?_append, List.getLast?_singleton, Option.some_or,
      Option.all_some, beq_iff_eq] at h
    subst h
    exact .inl ⟨front, by simp, by simp⟩
  next => exact .inr rfl

theorem isAbsolute_join {path : Bytes} (hpath : path ≠ []) {name : Name} (hname : Plain name) :
    isAbsolute (join path name) = isAbsolute path := by
  rcases join_cases hpath hname with ⟨front, rfl, h⟩ | h
  · rw [h]
    cases front <;> rfl
  · rw [h]
    cases path with
    | nil => exact absurd rfl hpath
    | cons b path => rfl

theorem join_ne_nil {path : Bytes} (hpath : path ≠ []) {name : Name} (hname : Plain name) :
    join path name ≠ [] := by
  rcases join_cases hpath hname with ⟨front, -, h⟩ | h <;> simp [h]

/-- A slash behind the path of a directory can be left out. -/
theorem Leads.of_append_nil {top : Node} {links : Nat} {here location : Location}
    {names : List Name} {es : List (Name × Node)}
    (h : Leads top true links here (names ++ [[]]) (.found location (.dir es))) :
    Leads top true links here names (.found location (.dir es)) := by
  generalize hnames : names ++ [[]] = all at h
  generalize hdest : Destination.found location (.dir es) = dest at h
  induction h generalizing names with
  | arrived => simp at hnames
  | skip hd hp h ih =>
    cases names with
    | nil =>
      obtain ⟨rfl, rfl⟩ := List.cons.inj hnames
      exact h
    | cons piece names =>
      obtain ⟨rfl, hrest⟩ := List.cons.inj hnames
      exact .skip hd hp (ih hrest hdest)
  | up hd hp hu _ ih =>
    cases names with
    | nil =>
      obtain ⟨rfl, rfl⟩ := List.cons.inj hnames
      exact absurd hu (by decide)
    | cons piece names =>
      obtain ⟨rfl, hrest⟩ := List.cons.inj hnames
      exact .up hd hp hu (ih hrest hdest)
  | missing | file => cases hdest
  | linkLast => cases hdest
  | dir hd hp hl _ ih =>
    cases names with
    | nil =>
      obtain ⟨rfl, rfl⟩ := List.cons.inj hnames
      exact absurd rfl hp.not_here
    | cons piece names =>
      obtain ⟨rfl, hrest⟩ := List.cons.inj hnames
      exact .dir hd hp hl (ih hrest hdest)
  | link hd hp hl _ _ ih =>
    cases names with
    | nil =>
      obtain ⟨rfl, rfl⟩ := List.cons.inj hnames
      exact absurd rfl hp.not_here
    | cons piece names =>
      obtain ⟨rfl, rfl⟩ := List.cons.inj hnames
      exact .link hd hp hl (by simp) (ih (List.append_assoc ..) hdest)

theorem Leads.of_append_plain {top : Node} {followLast : Bool} {links : Nat} {here : Location}
    {names : List Name} {name : Name} {dest : Destination} (hname : Plain name)
    (h : Leads top followLast links here (names ++ [name]) dest) :
    ∃ location es, Leads top true links here names (.found location (.dir es)) := by
  generalize hall : names ++ [name] = all at h
  induction h generalizing names with
  | arrived => simp at hall
  | skip hd hp _ ih =>
    cases names with
    | nil =>
      obtain ⟨rfl, -⟩ := List.cons.inj hall
      simp [hname.not_empty, hname.not_dot] at hp
    | cons piece names =>
      obtain ⟨rfl, hrest⟩ := List.cons.inj hall
      obtain ⟨location, es, hl⟩ := ih hrest
      exact ⟨location, es, .skip hd hp hl⟩
  | up hd hp hu _ ih =>
    cases names with
    | nil =>
      obtain ⟨rfl, -⟩ := List.cons.inj hall
      simp [hname.not_dots] at hu
    | cons piece names =>
      obtain ⟨rfl, hrest⟩ := List.cons.inj hall
      obtain ⟨location, es, hl⟩ := ih hrest
      exact ⟨location, es, .up hd hp hu hl⟩
  | missing hd _ _ hrest =>
    cases names with
    | nil => exact ⟨_, _, .arrived hd⟩
    | cons piece names =>
      obtain ⟨-, rfl⟩ := List.cons.inj hall
      simp [hname.not_empty] at hrest
  | file hd =>
    cases names with
    | nil => exact ⟨_, _, .arrived hd⟩
    | cons piece names => simp at hall
  | linkLast hd =>
    cases names with
    | nil => exact ⟨_, _, .arrived hd⟩
    | cons piece names => simp at hall
  | dir hd hp hl _ ih =>
    cases names with
    | nil => exact ⟨_, _, .arrived hd⟩
    | cons piece names =>
      obtain ⟨rfl, hrest⟩ := List.cons.inj hall
      obtain ⟨location, es, hl'⟩ := ih hrest
      exact ⟨location, es, .dir hd hp hl hl'⟩
  | link hd hp hl hlast _ ih =>
    cases names with
    | nil => exact ⟨_, _, .arrived hd⟩
    | cons piece names =>
      obtain ⟨rfl, rfl⟩ := List.cons.inj hall
      obtain ⟨location, es, hl'⟩ := ih (List.append_assoc ..)
      exact ⟨location, es, .link hd hp hl (by simp) hl'⟩

section Join

variable {d : Disk} {path : Bytes} {name : Name} {location : Location} {es : List (Name × Node)}
  {followLast : Bool} {dest : Destination}

theorem ne_nil_of_lookup (h : d.lookup path followLast = .ok dest) : path ≠ [] := by
  have := (lookup_eq_ok_iff.1 h).1.not_empty
  simpa using this

theorem exists_follow_join (followLast : Bool)
    (hpath : d.lookup path true = .ok (.found location (.dir es)))
    (hname : Plain name) (hf : Followable (join path name)) : ∃ left,
      d.lookup (join path name) followLast = follow d.top followLast left location [name] := by
  have hne := ne_nil_of_lookup hpath
  obtain ⟨hfollow, hleads⟩ := lookup_eq_ok_iff.1 hpath
  have horigin : d.origin (join path name) = d.origin path := by
    simp only [origin, isAbsolute_join hne hname]
  have hjoin : ∃ names, pieces (join path name) = names ++ [name] ∧
      Leads d.top true mostLinks (d.origin path) names (.found location (.dir es)) := by
    rcases join_cases hne hname with ⟨front, rfl, h⟩ | h
    · refine ⟨pieces front, ?_, Leads.of_append_nil ?_⟩
      · rw [h, pieces_append_slash, pieces_of_no_slash hname.no_slash]
      · rw [pieces_append_slash] at hleads
        exact hleads
    · exact ⟨pieces path, by rw [h, pieces_append_slash, pieces_of_no_slash hname.no_slash],
        hleads⟩
  obtain ⟨names, hpieces, hleads⟩ := hjoin
  have hmore : ∃ left, follow d.top followLast mostLinks (d.origin path) (names ++ [name]) =
      follow d.top followLast left location [name] := hleads.follow_append (by simp)
  obtain ⟨left, hleft⟩ := hmore
  refine ⟨left, ?_⟩
  rw [lookup_of_followable hf, horigin, hpieces, hleft]

theorem Followable.of_join (hpath : path ≠ []) (hname : Plain name)
    (h : Followable (join path name)) : Followable path := by
  obtain ⟨more, hmore⟩ : ∃ more, join path name = path ++ more := by
    rcases join_cases hpath hname with ⟨front, rfl, hjoin⟩ | hjoin
    · exact ⟨name, by rw [hjoin, List.append_assoc, List.singleton_append]⟩
    · exact ⟨_, hjoin⟩
  rw [hmore] at h
  refine ⟨by simpa using hpath, fun h0 ↦ h.no_nul ?_, fun hs ↦ h.short ?_⟩
  · simp only [List.contains_eq_mem, decide_eq_true_eq] at h0 ⊢
    exact List.mem_append_left _ h0
  · rw [List.length_append]
    omega

theorem exists_dir_of_lookup_join (hpath : path ≠ []) (hname : Plain name)
    (h : d.lookup (join path name) followLast = .ok dest) :
    ∃ location es, d.lookup path true = .ok (.found location (.dir es)) := by
  obtain ⟨hf, hleads⟩ := lookup_eq_ok_iff.1 h
  have horigin : d.origin (join path name) = d.origin path := by
    simp only [origin, isAbsolute_join hpath hname]
  rw [horigin] at hleads
  have hfollowable := hf.of_join hpath hname
  rcases join_cases hpath hname with ⟨front, rfl, hjoin⟩ | hjoin
  · rw [hjoin, pieces_append_slash, pieces_of_no_slash hname.no_slash] at hleads
    obtain ⟨location, es, hl⟩ := hleads.of_append_plain hname
    have hmore : ∃ left, follow d.top true mostLinks (d.origin (front ++ [slash]))
        (pieces front ++ [[]]) = follow d.top true left location [[]] := hl.follow_append (by simp)
    obtain ⟨left, hleft⟩ := hmore
    refine ⟨location, es, lookup_eq_ok_iff.2 ⟨hfollowable, leads_of_follow ?_⟩⟩
    rw [pieces_append_slash, show pieces [] = [[]] from rfl, hleft, follow_skip hl.at?_eq rfl]
    exact follow_nil hl.at?_eq
  · rw [hjoin, pieces_append_slash, pieces_of_no_slash hname.no_slash] at hleads
    obtain ⟨location, es, hl⟩ := hleads.of_append_plain hname
    exact ⟨location, es, lookup_eq_ok_iff.2 ⟨hfollowable, hl⟩⟩

def entryAt (location : Location) (name : Name) : Option Node → Destination
  | some m => .found (location ++ [name]) m
  | none => .missing (location ++ [name]) false

@[simp]
theorem found_eq_entryAt_iff {found : Option Node} {spot : Location} {m : Node} :
    .found spot m = entryAt location name found ↔ found = some m ∧ spot = location ++ [name] := by
  cases found with
  | none => simp [entryAt]
  | some child => simp [entryAt, and_comm, eq_comm]

@[simp]
theorem missing_eq_entryAt_iff {found : Option Node} {spot : Location} {slashed : Bool} :
    .missing spot slashed = entryAt location name found ↔
      found = none ∧ spot = location ++ [name] ∧ slashed = false := by
  cases found <;> simp [entryAt]

theorem follow_plain {top : Node} {links : Nat} (hd : top.at? location = some (.dir es))
    (hname : Plain name) (hs : name.length ≤ longestName)
    (hlink : ∀ target, es.lookup name ≠ some (.link target)) :
    follow top followLast links location [name] = .ok (entryAt location name (es.lookup name)) := by
  have hp := hname.entered hs
  cases hl : es.lookup name with
  | none => rw [follow_missing hd hp hl]; rfl
  | some m =>
    cases m with
    | link target => exact absurd hl (hlink target)
    | file content executable => rw [follow_file hd hp hl]; rfl
    | dir fs =>
      rw [follow_dir hd hp hl]
      exact follow_nil (by rw [Node.at?_append_name hd, hl])

theorem follow_too_long {top : Node} {links : Nat} (hd : top.at? location = some (.dir es))
    (hname : Plain name) (hs : name.length > longestName) :
    follow top followLast links location [name] = .error .nameTooLong := by
  rw [follow, hd]
  simp [hname.not_empty, hname.not_dot, hname.not_dots, hs]

theorem short_of_follow {top : Node} {links : Nat} (hd : top.at? location = some (.dir es))
    (hname : Plain name) (h : follow top followLast links location [name] = .ok dest) :
    name.length ≤ longestName := by
  refine Classical.byContradiction fun hs ↦ ?_
  rw [follow_too_long hd hname (by omega)] at h
  cases h

/-- What keeps a name behind a path from being looked up, whatever is on the disk. -/
def obstacle? (path : Bytes) (name : Name) : Option Fault :=
  if (join path name).contains 0 then some .nulInName
  else if (join path name).length > longestPath then some .nameTooLong
  else if name.length > longestName then some .nameTooLong
  else none

variable (hpath : d.lookup path true = .ok (.found location (.dir es))) (hname : Plain name)
include hpath hname

theorem lookup_join (hf : Followable (join path name)) (hs : name.length ≤ longestName)
    (hlink : ∀ target, es.lookup name ≠ some (.link target)) :
    d.lookup (join path name) followLast = .ok (entryAt location name (es.lookup name)) := by
  obtain ⟨left, hleft⟩ := exists_follow_join followLast hpath hname hf
  rw [hleft]
  exact follow_plain (lookup_eq_ok_iff.1 hpath).2.at?_eq hname hs hlink

theorem lookup_join_eq (hlink : ∀ target, es.lookup name ≠ some (.link target)) :
    d.lookup (join path name) followLast =
      match obstacle? path name with
      | some fault => .error fault
      | none => .ok (entryAt location name (es.lookup name)) := by
  have hempty : ¬(join path name == []) = true := by
    simpa using join_ne_nil (ne_nil_of_lookup hpath) hname
  by_cases hnul : (join path name).contains 0 = true
  · simp only [lookup, obstacle?, hempty, hnul, if_true, if_false, Bool.false_eq_true]
  by_cases hlong : (join path name).length > longestPath
  · simp only [lookup, obstacle?, hempty, hnul, hlong, if_true, if_false, Bool.false_eq_true]
  have hf : Followable (join path name) := ⟨hempty, hnul, hlong⟩
  by_cases hs : name.length > longestName
  · obtain ⟨left, hleft⟩ := exists_follow_join followLast hpath hname hf
    rw [hleft, follow_too_long (lookup_eq_ok_iff.1 hpath).2.at?_eq hname hs]
    simp only [obstacle?, hnul, hlong, hs, if_true, if_false, Bool.false_eq_true]
  · rw [lookup_join hpath hname hf (by omega) hlink]
    simp only [obstacle?, hnul, hlong, hs, if_false, Bool.false_eq_true]

theorem short_of_lookup_join (h : d.lookup (join path name) followLast = .ok dest) :
    name.length ≤ longestName := by
  obtain ⟨left, hleft⟩ := exists_follow_join followLast hpath hname
    (lookup_eq_ok_iff.1 h).1
  exact short_of_follow (lookup_eq_ok_iff.1 hpath).2.at?_eq hname (hleft ▸ h)

theorem eq_entryAt_of_lookup_join (hlink : ∀ target, es.lookup name ≠ some (.link target))
    (h : d.lookup (join path name) followLast = .ok dest) :
    dest = entryAt location name (es.lookup name) := by
  have hs := short_of_lookup_join hpath hname h
  rw [lookup_join hpath hname (lookup_eq_ok_iff.1 h).1 hs hlink] at h
  exact (Except.ok.inj h).symm

theorem eq_of_spot?_join {spot : Location} (hlink : ∀ target, es.lookup name ≠ some (.link target))
    (h : d.spot? (join path name) = some spot) : spot = location ++ [name] := by
  rcases spot?_eq_some_iff.1 h with ⟨_, _, hl⟩ | hl
  · exact (found_eq_entryAt_iff.1 (eq_entryAt_of_lookup_join hpath hname hlink hl)).2
  · exact (missing_eq_entryAt_iff.1 (eq_entryAt_of_lookup_join hpath hname hlink hl)).2.1

theorem lookup_join_link {target : Bytes} (hl : es.lookup name = some (.link target))
    (h : d.lookup (join path name) followLast = .ok dest) :
    d.lookup (join path name) false = .ok (.found (location ++ [name]) (.link target)) := by
  have hs := short_of_lookup_join hpath hname h
  obtain ⟨left, hleft⟩ := exists_follow_join false hpath hname
    (lookup_eq_ok_iff.1 h).1
  rw [hleft]
  exact follow_link_last (lookup_eq_ok_iff.1 hpath).2.at?_eq (hname.entered hs) hl rfl

end Join

def Dangling (d : Disk) (path : Bytes) : Prop :=
  (∃ spot slashed, d.lookup path true = .ok (.missing spot slashed)) ∧
    ∃ location target, d.lookup path false = .ok (.found location (.link target))

theorem missing_eq_of_not_dangling {d : Disk} {path : Bytes} {name : Name} {location : Location}
    {es : List (Name × Node)} {spot : Location} {slashed : Bool}
    (hpath : d.lookup path true = .ok (.found location (.dir es))) (hname : Plain name)
    (hn : ¬Dangling d (join path name))
    (h : d.lookup (join path name) true = .ok (.missing spot slashed)) :
    spot = location ++ [name] := by
  by_cases hlink : ∃ target, es.lookup name = some (.link target)
  · obtain ⟨target, hl⟩ := hlink
    exact absurd ⟨⟨_, _, h⟩, _, _, lookup_join_link hpath hname hl h⟩ hn
  · have he := eq_entryAt_of_lookup_join hpath hname (fun target hl ↦ hlink ⟨target, hl⟩) h
    exact (missing_eq_entryAt_iff.1 he).2.1

end StyleTypings.Disk
