import StyleTypings.Proofs.Path.Ancestors
import StyleTypings.Proofs.Path.Ending
import StyleTypings.Proofs.Path.Resolving

namespace StyleTypings.Path

def Tight (path : List Char) : Prop :=
  ∀ front, front <+: path → componentsOf front = componentsOf path → front = path

structure Above (dir path : String) : Prop where
  front : dir.toList <+: path.toList
  absolute_eq : isAbsolute dir = isAbsolute path
  components_prefix : components dir <+: components path
  components_ne : components dir ≠ components path
  tight : Tight dir.toList

/-- A text behind which pieces stand for the same components as anywhere else. -/
structure Opens (done : List Char) (cs : List Component) : Prop where
  componentsOf_append : ∀ more,
    componentsOf (done ++ more) = cs ++ (pieces more).filterMap component?
  length_le : ∀ front, front <+: done → (componentsOf front).length ≤ cs.length

structure Spans (dirs : List (List Char)) (path : List Char) (start names : List Component) :
    Prop where
  front : ∀ dir ∈ dirs, dir <+: path
  tight : ∀ dir ∈ dirs, Tight dir
  components_eq : dirs.map componentsOf = names.inits.map (start ++ ·)

variable {done path piece dir front : List Char} {cs start names : List Component} {c : Component}

theorem joined_pieces (path : List Char) : joined (pieces path) = path := by
  induction path with
  | nil => rfl
  | cons c path ih =>
    obtain ⟨p, ps, hps⟩ := List.exists_cons_of_ne_nil (pieces_ne_nil path)
    rw [pieces]
    rw [hps] at ih ⊢
    split
    next hc => exact eq_of_beq hc ▸ congrArg ('/' :: ·) ih
    · cases ps with
      | nil => exact congrArg (c :: ·) ih
      | cons q ps => exact congrArg (c :: ·) ih

theorem prefix_singleton_cases {a : Char} (h : front <+: [a]) : front = [] ∨ front = [a] := by
  rcases List.prefix_cons_iff.1 h with rfl | ⟨rest, rfl, hrest⟩
  · exact .inl rfl
  · exact .inr (by rw [List.prefix_nil.1 hrest])

theorem length_component?_le (h : front <+: piece) :
    (component? front).toList.length ≤ (component? piece).toList.length := by
  have hsome := isSome_component? front
  have hsome' := isSome_component? piece
  cases hfront : component? front with
  | none => exact Nat.zero_le _
  | some c =>
    cases hpiece : component? piece with
    | some c' => exact le_rfl
    | none =>
      rw [hfront, Option.isSome_some, eq_comm, Bool.and_eq_true, bne_iff_ne, bne_iff_ne] at hsome
      rw [hpiece, Option.isSome_none, eq_comm, Bool.and_eq_false_iff, bne_eq_false_iff_eq,
        bne_eq_false_iff_eq] at hsome'
      rcases hsome' with rfl | rfl
      · exact absurd (List.prefix_nil.1 h) hsome.1
      · rcases prefix_singleton_cases h with h | h
        · exact absurd h hsome.1
        · exact absurd h hsome.2

theorem prefix_append_cases {a b : List Char} (h : front <+: a ++ b) :
    front <+: a ∨ ∃ more, front = a ++ more ∧ more <+: b := by
  obtain ⟨rest, hrest⟩ := h
  rcases List.append_eq_append_iff.1 hrest with ⟨more, rfl, -⟩ | ⟨more, rfl, hb⟩
  · exact .inl (List.prefix_append ..)
  · exact .inr ⟨more, rfl, hb ▸ List.prefix_append ..⟩

namespace Opens

theorem componentsOf_piece (h : Opens done cs) (hp : '/' ∉ piece) :
    componentsOf (done ++ piece) = cs ++ (component? piece).toList := by
  rw [h.componentsOf_append, pieces_of_no_slash hp]
  cases hc : component? piece <;> simp [hc]

theorem componentsOf_slash (h : Opens done cs) (hp : '/' ∉ piece) (more : List Char) :
    componentsOf (done ++ piece ++ '/' :: more) =
      cs ++ (component? piece).toList ++ (pieces more).filterMap component? := by
  rw [List.append_assoc, h.componentsOf_append, pieces_append_slash hp]
  cases hc : component? piece <;> simp [hc]

theorem next (h : Opens done cs) (hp : '/' ∉ piece) :
    Opens (done ++ piece ++ ['/']) (cs ++ (component? piece).toList) where
  componentsOf_append more := by
    rw [List.append_assoc, List.singleton_append, h.componentsOf_slash hp]
  length_le front hfront := by
    rcases prefix_append_cases hfront with hfront | ⟨more, rfl, hmore⟩
    · rcases prefix_append_cases hfront with hfront | ⟨more, rfl, hmore⟩
      · have := h.length_le front hfront
        rw [List.length_append]
        omega
      · have := length_component?_le hmore
        rw [h.componentsOf_piece fun hs ↦ hp (hmore.subset hs), List.length_append,
          List.length_append]
        omega
    · -- A slash behind the piece adds nothing.
      rcases prefix_singleton_cases hmore with rfl | rfl
      · rw [List.append_nil, h.componentsOf_piece hp]
      · have hnone : (pieces []).filterMap component? = [] := rfl
        rw [h.componentsOf_slash hp, hnone, List.append_nil]

theorem tight (h : Opens done cs) (hp : '/' ∉ piece) (hc : component? piece = some c) :
    Tight (done ++ piece) := by
  intro front hfront heq
  rw [h.componentsOf_piece hp, hc] at heq
  rcases prefix_append_cases hfront with hfront | ⟨more, rfl, hmore⟩
  · have hle := h.length_le front hfront
    rw [heq, List.length_append] at hle
    exact absurd hle (by simp)
  · rw [h.componentsOf_piece fun hs ↦ hp (hmore.subset hs)] at heq
    have hmore' : component? more = some c := by
      have := List.append_cancel_left heq
      cases hm : component? more <;> simp_all
    rw [← chars_of_component? hmore', chars_of_component? hc]

theorem spans {ps : List (List Char)} (h : Opens done cs) (hps : ∀ p ∈ ps, '/' ∉ p) :
    (∀ dir ∈ prefixesFrom done ps, dir <+: done ++ joined ps ∧ Tight dir) ∧
      cs :: (prefixesFrom done ps).map componentsOf =
        (ps.filterMap component?).inits.map (cs ++ ·) := by
  induction ps generalizing done cs with
  | nil => exact ⟨fun dir hdir ↦ absurd hdir List.not_mem_nil, by simp [prefixesFrom]⟩
  | cons p ps ih =>
    have hp := hps p List.mem_cons_self
    obtain ⟨hlater, hcomponents⟩ := ih (h.next hp) fun q hq ↦ hps q (List.mem_cons_of_mem _ hq)
    have hfront : ∀ dir ∈ prefixesFrom (done ++ p ++ ['/']) ps,
        dir <+: done ++ joined (p :: ps) ∧ Tight dir := by
      intro dir hdir
      refine ⟨?_, (hlater dir hdir).2⟩
      cases ps with
      | nil => cases hdir
      | cons q ps => simpa [joined] using (hlater dir hdir).1
    cases hc : component? p with
    | none =>
      simp only [prefixesFrom, hc, Option.isSome_none, Bool.false_eq_true, if_false]
      rw [hc, Option.toList_none, List.append_nil] at hcomponents
      rw [List.filterMap_cons_none hc]
      exact ⟨hfront, hcomponents⟩
    | some c =>
      simp only [prefixesFrom, hc, Option.isSome_some, if_true]
      rw [hc, Option.toList_some] at hcomponents
      refine ⟨fun dir hdir ↦ ?_, ?_⟩
      · rcases List.mem_cons.1 hdir with rfl | hdir
        · refine ⟨?_, h.tight hp hc⟩
          cases ps with
          | nil => exact List.prefix_rfl
          | cons q ps => exact ⟨'/' :: joined (q :: ps), by simp [joined]⟩
        · exact hfront dir hdir
      · rw [List.filterMap_cons_some hc, List.map_cons, h.componentsOf_piece hp, hc,
          Option.toList_some, hcomponents]
        simp [Function.comp_def]

end Opens

theorem componentsOf_of_no_head (h : head path = none) :
    componentsOf path = (pieces path).filterMap component? := by
  rw [componentsOf, body, h]
  rfl

/-- A text without slashes stands for at most one component. -/
theorem length_componentsOf_le (hp : '/' ∉ piece) : (componentsOf piece).length ≤ 1 := by
  rcases head_cases piece with ⟨rest, rfl⟩ | ⟨rest, rfl⟩ | rfl | hhead
  · simp at hp
  · simp at hp
  · decide
  · rw [componentsOf_of_no_head hhead, pieces_of_no_slash hp]
    exact List.length_filterMap_le ..

theorem component?_ne_current (h : component? piece = some c) : c ≠ .current := by
  unfold component? at h
  split at h
  · cases h
  · split at h <;> cases h <;> simp

/-- The first piece of a path without a head opens it. -/
theorem opens_piece (hp : '/' ∉ piece) (hc : component? piece = some c) :
    componentsOf piece = [c] ∧ Tight piece ∧ Opens (piece ++ ['/']) [c] := by
  have hne : piece ≠ [] := by
    rintro rfl
    cases hc
  have hdot : piece ≠ ['.'] := by
    rintro rfl
    cases hc
  have hself {piece : List Char} (hp : '/' ∉ piece) (hdot : piece ≠ ['.']) :
      componentsOf piece = (component? piece).toList := by
    rcases head_cases piece with ⟨rest, rfl⟩ | ⟨rest, rfl⟩ | rfl | hhead
    · simp at hp
    · simp at hp
    · exact absurd rfl hdot
    · rw [componentsOf_of_no_head hhead, pieces_of_no_slash hp]
      cases h : component? piece <;> simp [h]
  have hpiece : componentsOf piece = [c] := by rw [hself hp hdot, hc, Option.toList_some]
  refine ⟨hpiece, fun front hfront heq ↦ ?_, ⟨fun more ↦ ?_, fun front hfront ↦ ?_⟩⟩
  · rw [hpiece] at heq
    by_cases hfdot : front = ['.']
    · -- A dot in front is another component than a name that begins with one.
      subst hfdot
      exact absurd (List.singleton_inj.1 heq).symm (component?_ne_current hc)
    · rw [hself (fun hs ↦ hp (hfront.subset hs)) hfdot] at heq
      have hfc : component? front = some c := Option.toList_eq_singleton_iff.1 heq
      rw [← chars_of_component? hfc, chars_of_component? hc]
  · rw [List.append_assoc, List.singleton_append, Path.componentsOf_append hne, hpiece]
  · rcases prefix_append_cases hfront with hfront | ⟨more, rfl, hmore⟩
    · exact length_componentsOf_le fun hs ↦ hp (hfront.subset hs)
    · rcases prefix_singleton_cases hmore with rfl | rfl
      · rw [List.append_nil, hpiece]
      · have hnone : (pieces []).filterMap component? = [] := rfl
        rw [Path.componentsOf_append hne, hpiece, hnone, List.append_nil]

theorem opens_root : Opens ['/'] [.root] where
  componentsOf_append _ := rfl
  length_le front hfront := by
    rcases prefix_singleton_cases hfront with rfl | rfl <;> decide

theorem opens_current : Opens ['.', '/'] [.current] where
  componentsOf_append _ := rfl
  length_le front hfront := by
    rcases List.prefix_cons_iff.1 hfront with rfl | ⟨rest, rfl, hrest⟩
    · decide
    · rcases prefix_singleton_cases hrest with rfl | rfl <;> decide

theorem tight_nil : Tight [] := fun _ hfront _ ↦ List.prefix_nil.1 hfront

theorem tight_singleton {a : Char} (h : componentsOf [a] ≠ []) : Tight [a] := by
  intro front hfront heq
  rcases prefix_singleton_cases hfront with rfl | rfl
  · exact absurd heq.symm h
  · rfl

def rootOf (path : List Char) : List Component := if path.head? = some '/' then [.root] else []

theorem rootOf_of_no_head (h : head path = none) : rootOf path = [] := by
  refine if_neg fun hroot ↦ ?_
  rw [List.eq_cons_of_mem_head? hroot] at h
  cases h

theorem exists_component?_of_no_head (hne : piece ≠ []) (h : head piece = none) :
    ∃ c, component? piece = some c := by
  have hdot : piece ≠ ['.'] := by
    rintro rfl
    cases h
  refine Option.isSome_iff_exists.1 ?_
  rw [isSome_component?, Bool.and_eq_true, bne_iff_ne, bne_iff_ne]
  exact ⟨hne, hdot⟩

namespace Spans

theorem of_opens (dir : List Char) (h : Opens done (componentsOf dir)) (hfront : dir <+: done)
    (ht : Tight dir) (rest : List Char) :
    Spans (dir :: prefixesFrom done (pieces rest)) (done ++ rest) (componentsOf dir)
      ((pieces rest).filterMap component?) := by
  obtain ⟨hdirs, hcomponents⟩ := h.spans fun p (hp : p ∈ pieces rest) ↦ no_slash_of_mem_pieces hp
  rw [joined_pieces] at hdirs
  exact ⟨List.forall_mem_cons.2
      ⟨hfront.trans (List.prefix_append ..), fun dir hdir ↦ (hdirs dir hdir).1⟩,
    List.forall_mem_cons.2 ⟨ht, fun dir hdir ↦ (hdirs dir hdir).2⟩, hcomponents⟩

theorem single (ht : Tight path) : Spans [path] path (componentsOf path) [] :=
  ⟨List.forall_mem_singleton.2 List.prefix_rfl, List.forall_mem_singleton.2 ht, by simp⟩

theorem empty_cons {dirs : List (List Char)} (h : Spans dirs path [c] names) :
    Spans ([] :: dirs) path [] (c :: names) where
  front := List.forall_mem_cons.2 ⟨List.nil_prefix, h.front⟩
  tight := List.forall_mem_cons.2 ⟨tight_nil, h.tight⟩
  components_eq := by
    rw [List.map_cons, h.components_eq]
    simp [Function.comp_def, componentsOf, body, head, pieces, component?]

end Spans

theorem exists_spans (path : List Char) : ∃ names,
    componentsOf path = rootOf path ++ names ∧
      Spans (prefixesOf path) path (rootOf path) names := by
  have hroot : Tight ['/'] := tight_singleton (by decide)
  have hdot : Tight ['.'] := tight_singleton (by decide)
  rcases head_cases path with ⟨rest, rfl⟩ | ⟨rest, rfl⟩ | rfl | hhead
  · exact ⟨_, rfl, .of_opens ['/'] opens_root List.prefix_rfl hroot rest⟩
  · exact ⟨_, rfl, .empty_cons
      (.of_opens ['.'] opens_current (List.prefix_append ['.'] ['/']) hdot rest)⟩
  · exact ⟨_, rfl, .empty_cons (.single hdot)⟩
  · rw [rootOf_of_no_head hhead]
    have hprefixes : prefixesOf path = [] :: prefixesFrom [] (pieces path) := by
      rw [prefixesOf, body, hhead]
      rfl
    by_cases hs : '/' ∈ path
    · obtain ⟨p, rest, rfl, hp⟩ := List.eq_append_cons_of_mem hs
      have hne : p ≠ [] := by
        rintro rfl
        cases hhead
      rw [head_append hne] at hhead
      obtain ⟨c, hc⟩ := exists_component?_of_no_head hne hhead
      obtain ⟨hcomponents, ht, hopens⟩ := opens_piece hp hc
      have hspans := Spans.of_opens p (hcomponents ▸ hopens) (List.prefix_append ..) ht rest
      rw [hcomponents, List.append_assoc, List.singleton_append] at hspans
      refine ⟨_, componentsOf_append hne rest, ?_⟩
      rw [hprefixes, pieces_append_slash hp, prefixesFrom, hc, hcomponents]
      exact hspans.empty_cons
    · rw [pieces_of_no_slash hs] at hprefixes
      by_cases hne : path = []
      · subst hne
        exact ⟨[], rfl, .single tight_nil⟩
      · obtain ⟨c, hc⟩ := exists_component?_of_no_head hne hhead
        obtain ⟨hcomponents, ht, -⟩ := opens_piece hs hc
        refine ⟨[c], hcomponents, ?_⟩
        rw [hprefixes, prefixesFrom, hc]
        exact .empty_cons (hcomponents ▸ .single ht)

theorem mem_dropLast_inits {cs : List Component} :
    cs ∈ names.inits.dropLast ↔ cs <+: names ∧ cs ≠ names := by
  rcases List.eq_nil_or_concat names with rfl | ⟨front, c, rfl⟩
  · simp
  · rw [List.concat_eq_append]
    have hinits : (front ++ [c]).inits.dropLast = front.inits := by
      simp [List.inits_append]
    rw [hinits, List.mem_inits, List.prefix_concat_iff]
    constructor
    · intro h
      refine ⟨.inr h, ?_⟩
      rintro rfl
      exact absurd h.length_le (by simp)
    · rintro ⟨h | h, hne⟩
      · exact absurd h hne
      · exact h

theorem mem_dropLast_map_inits {cs : List Component} :
    cs ∈ (names.inits.map (start ++ ·)).dropLast ↔
      start <+: cs ∧ cs <+: start ++ names ∧ cs ≠ start ++ names := by
  rw [← List.map_dropLast, List.mem_map]
  constructor
  · rintro ⟨behind, hmem, rfl⟩
    obtain ⟨hpre, hne⟩ := mem_dropLast_inits.1 hmem
    exact ⟨List.prefix_append .., (List.prefix_append_right_inj _).2 hpre,
      fun heq ↦ hne (List.append_cancel_left heq)⟩
  · rintro ⟨⟨behind, rfl⟩, hpre, hne⟩
    exact ⟨behind, mem_dropLast_inits.2 ⟨(List.prefix_append_right_inj _).1 hpre,
      fun heq ↦ hne (heq ▸ rfl)⟩, rfl⟩

theorem rootOf_prefix_iff (h : dir <+: path) :
    rootOf path <+: componentsOf dir ↔ (dir.head? == some '/') = (path.head? == some '/') := by
  obtain ⟨behind, rfl⟩ := h
  cases dir with
  | nil =>
    have hnone : componentsOf [] = [] := rfl
    rw [hnone, List.nil_append, List.prefix_nil, rootOf]
    cases behind with
    | nil => simp
    | cons c behind => by_cases hc : c = '/' <;> simp [hc]
  | cons c dir =>
    by_cases hc : c = '/'
    · subst hc
      simp [rootOf, componentsOf, head]
    · simp [rootOf, hc]

theorem mem_ancestors_iff_mem_dropLast {dir path : String} :
    dir ∈ ancestors path ↔ dir.toList ∈ (prefixesOf path.toList).dropLast := by
  rw [ancestors, List.drop_one, List.tail_reverse, List.mem_map]
  simp only [List.mem_reverse]
  constructor
  · rintro ⟨front, hfront, rfl⟩
    rwa [String.toList_ofList]
  · exact fun h ↦ ⟨_, h, String.ofList_toList⟩

/-- The directories that a path lies in are found by going through its pieces. -/
theorem mem_ancestors_iff {dir path : String} : dir ∈ ancestors path ↔ Above dir path := by
  obtain ⟨names, hcomponents, hspans⟩ := exists_spans path.toList
  have hlists : ((prefixesOf path.toList).dropLast).map componentsOf =
      (names.inits.map (rootOf path.toList ++ ·)).dropLast := by
    rw [List.map_dropLast, hspans.components_eq]
  have hmem : ∀ {cs}, cs ∈ ((prefixesOf path.toList).dropLast).map componentsOf ↔
      rootOf path.toList <+: cs ∧ cs <+: components path ∧ cs ≠ components path := by
    intro cs
    rw [hlists, mem_dropLast_map_inits, components, hcomponents]
  rw [mem_ancestors_iff_mem_dropLast]
  constructor
  · intro hdir
    have hfront := hspans.front _ (List.dropLast_subset _ hdir)
    obtain ⟨hroot, hpre, hne⟩ := hmem.1 (List.mem_map_of_mem hdir)
    exact ⟨hfront, (rootOf_prefix_iff hfront).1 hroot, hpre, hne,
      hspans.tight _ (List.dropLast_subset _ hdir)⟩
  · intro h
    obtain ⟨found, hfound, heq⟩ := List.mem_map.1
      (hmem.2 ⟨(rootOf_prefix_iff h.front).2 h.absolute_eq, h.components_prefix, h.components_ne⟩)
    have hfront := hspans.front _ (List.dropLast_subset _ hfound)
    have ht := hspans.tight _ (List.dropLast_subset _ hfound)
    -- Of two texts in front of a path one is in front of the other.
    rcases List.prefix_or_prefix_of_prefix hfront h.front with hle | hle
    · exact h.tight _ hle heq ▸ hfound
    · exact (ht _ hle heq.symm).symm ▸ hfound

example : ancestors "./a/.//b/" = ["./a", ".", ""] := by decide +kernel

theorem pieces_append_of_no_slash {more p : List Char} {ps : List (List Char)} (h : '/' ∉ front)
    (hmore : pieces more = p :: ps) : pieces (front ++ more) = (front ++ p) :: ps := by
  induction front with
  | nil => exact hmore
  | cons c front ih =>
    rw [List.mem_cons, not_or] at h
    rw [List.cons_append, pieces, if_neg (by simpa using Ne.symm h.1), ih h.2]
    rfl

/-- What a text at the beginning of a path or behind a slash stands for, if it begins with a
name. -/
theorem componentsOf_append_of_slash {more p : List Char} {ps : List (List Char)}
    (h : front = [] ∨ ∃ above, front = above ++ ['/']) (hmore : pieces more = p :: ps)
    (hp : component? p = some c) :
    componentsOf (front ++ more) =
      componentsOf front ++ c :: ps.filterMap component? := by
  have hnames : (pieces more).filterMap component? = c :: ps.filterMap component? := by
    rw [hmore, List.filterMap_cons_some hp]
  rw [← hnames]
  rcases h with rfl | ⟨above, rfl⟩
  · refine componentsOf_of_no_head ?_
    rcases head_cases more with ⟨rest, rfl⟩ | ⟨rest, rfl⟩ | rfl | hhead
    · cases hmore
      cases hp
    · cases hmore
      cases hp
    · cases hmore
      cases hp
    · exact hhead
  · rw [List.append_assoc, List.singleton_append]
    by_cases hne : above = []
    · subst hne
      rfl
    · have hnone : (pieces []).filterMap component? = [] := rfl
      rw [componentsOf_append hne, componentsOf_append hne, hnone, List.append_nil]

theorem exists_eq_append_behindLastSlash (path : String) :
    ∃ front, path.toList = front ++ (behindLastSlash path).toList ∧
      '/' ∉ (behindLastSlash path).toList ∧ (front = [] ∨ ∃ above, front = above ++ ['/']) := by
  refine ⟨path.toList.rdropWhile (· != '/'), ?_, fun hs ↦ ?_, ?_⟩
  · rw [behindLastSlash, String.toList_ofList, List.rdropWhile_append_rtakeWhile]
  · rw [behindLastSlash, String.toList_ofList] at hs
    exact absurd (List.mem_rtakeWhile_imp hs) (by simp)
  · refine or_iff_not_imp_left.2 fun hne ↦ ⟨(path.toList.rdropWhile (· != '/')).dropLast, ?_⟩
    have hlast := List.rdropWhile_last_not _ _ hne
    rw [bne_iff_ne, not_not] at hlast
    have happend := List.dropLast_append_getLast hne
    rw [hlast] at happend
    exact happend.symm

/-- A directory whose name goes on where that of another one ends is not below it. -/
theorem startsWith_append_eq_false {root : String} (hempty : behindLastSlash root ≠ "")
    (hdot : behindLastSlash root ≠ ".") {c : Char} (hc : c ≠ '/') (more : List Char) :
    startsWith (root ++ String.ofList (c :: more)) root = false := by
  obtain ⟨front, hroot, hname, hfront⟩ := exists_eq_append_behindLastSlash root
  generalize hlast : (behindLastSlash root).toList = name at hroot hname
  have hne : name ≠ [] := fun h ↦ hempty (String.toList_inj.1 (hlast.trans h))
  have hne' : name ≠ ['.'] := fun h ↦ hdot (String.toList_inj.1 (hlast.trans h))
  obtain ⟨p, ps, hpieces⟩ : ∃ p ps, pieces (c :: more) = (c :: p) :: ps := by
    obtain ⟨p, ps, hps⟩ := List.exists_cons_of_ne_nil (pieces_ne_nil more)
    exact ⟨p, ps, by rw [pieces, if_neg (by simpa using hc), hps]⟩
  obtain ⟨d, hd⟩ := (Named.mk hne hne' hname).exists_component?
  obtain ⟨d', hd'⟩ : ∃ d', component? (name ++ c :: p) = some d' := by
    refine Option.isSome_iff_exists.1 ?_
    obtain ⟨a, name, rfl⟩ := List.exists_cons_of_ne_nil hne
    simp [isSome_component?]
  have hcomponents := componentsOf_append_of_slash hfront (pieces_of_no_slash hname) hd
  have hcomponents' := componentsOf_append_of_slash hfront
    (pieces_append_of_no_slash hname hpieces) hd'
  have hlonger : (root ++ String.ofList (c :: more)).toList = front ++ (name ++ c :: more) := by
    rw [String.toList_append, String.toList_ofList, hroot, List.append_assoc]
  rw [startsWith, components, components, hlonger, hcomponents', hroot, hcomponents,
    Bool.eq_false_iff, ne_eq, List.isPrefixOf_iff_prefix, List.prefix_append_right_inj,
    List.cons_prefix_cons]
  rintro ⟨rfl, -⟩
  have hsame : name = name ++ c :: p :=
    (chars_of_component? hd).symm.trans (chars_of_component? hd')
  exact absurd (congrArg List.length hsame) (by simp)

end StyleTypings.Path
