import StyleTypings.Proofs.Path.Spelling

namespace StyleTypings.Path

/-- The pieces of a path that are neither empty nor a dot. -/
def segments (path : String) : List (List Char) :=
  (pieces path.toList).filter fun p ↦ p != [] && p != ['.']

/-- An absolute path without empty pieces, without dots and without a slash at its end, unless it is
a slash alone. -/
structure Canonical (path : String) : Prop where
  absolute : isAbsolute path = true
  no_empty : path ≠ "/" → [] ∉ (pieces path.toList).tail
  no_dot : ['.'] ∉ pieces path.toList
  no_slash_behind : path ≠ "/" → path.toList.getLast? ≠ some '/'

/-- Paths that differ in repeated slashes, slashes at their ends and dots at most. -/
structure Respelled (path other : String) : Prop where
  absolute_eq : isAbsolute other = isAbsolute path
  segments_eq : segments other = segments path

variable {base path other : String} {names : List (List Char)}

theorem isSome_component? (p : List Char) : (component? p).isSome = (p != [] && p != ['.']) := by
  unfold component?
  by_cases hnil : p = []
  · simp [hnil]
  · by_cases hdot : p = ['.']
    · simp [hdot]
    · simp only [beq_eq_false_iff_ne.2 hnil, beq_eq_false_iff_ne.2 hdot, bne, Bool.or_false,
        Bool.false_eq_true, if_false, Bool.not_false, Bool.and_self]
      split <;> rfl

theorem named_of_mem_segments {p : List Char} (h : p ∈ segments path) : Named p := by
  obtain ⟨hp, hname⟩ := List.mem_filter.1 h
  simp only [Bool.and_eq_true, bne_iff_ne] at hname
  exact ⟨hname.1, hname.2, no_slash_of_mem_pieces hp⟩

theorem filterMap_segments (path : String) :
    (segments path).filterMap component? = (pieces path.toList).filterMap component? := by
  rw [segments, List.filterMap_filter]
  refine List.filterMap_congr fun p _ ↦ ?_
  rw [← isSome_component?]
  cases component? p <;> rfl

theorem exists_of_isAbsolute (h : isAbsolute path = true) : ∃ rest, path.toList = '/' :: rest :=
  ⟨_, List.eq_cons_of_mem_head? (beq_iff_eq.1 h)⟩

theorem components_of_isAbsolute (h : isAbsolute path = true) :
    components path = .root :: (segments path).filterMap component? := by
  obtain ⟨rest, hrest⟩ := exists_of_isAbsolute h
  rw [filterMap_segments, components, hrest]
  rfl

theorem components_eq_iff (h : isAbsolute path = true) (h' : isAbsolute other = true) :
    components path = components other ↔ segments path = segments other := by
  rw [components_of_isAbsolute h, components_of_isAbsolute h']
  have hnamed (path : String) : ∀ p ∈ segments path, Named p := fun _ ↦ named_of_mem_segments
  constructor
  · intro he
    rw [← map_chars_filterMap (hnamed path), (List.cons.inj he).2,
      map_chars_filterMap (hnamed other)]
  · exact fun he ↦ he ▸ rfl

theorem segments_spelled (h : ∀ p ∈ names, Named p) :
    segments (String.ofList (spelled names)) = names := by
  have hself : names.filter (fun p ↦ p != [] && p != ['.']) = names := by
    refine List.filter_eq_self.2 fun p hp ↦ ?_
    simp [(h p hp).not_empty, (h p hp).not_dot]
  have hpieces : pieces (spelled names) = [] :: pieces (joined names) := rfl
  rw [segments, String.toList_ofList, hpieces, List.filter_cons_of_neg (by simp)]
  by_cases hn : names = []
  · subst hn
    rfl
  · rw [pieces_joined hn h, hself]

theorem segments_append_slash (front rest : List Char) :
    segments (String.ofList (front ++ '/' :: rest)) =
      segments (String.ofList front) ++ segments (String.ofList rest) := by
  simp only [segments, String.toList_ofList, pieces_append, List.filter_append]

theorem segments_join (base : String) (h : isAbsolute path = false) :
    segments (join base path) = segments base ++ segments path := by
  rw [join, if_neg (by simp [h])]
  split
  next hend =>
    rcases List.eq_nil_or_concat base.toList with hnil | ⟨front, c, hbase⟩
    · obtain rfl : base = "" := String.toList_inj.1 hnil
      rw [String.empty_append]
      rfl
    · rw [List.concat_eq_append] at hbase
      obtain rfl : c = '/' := by simpa [hbase] using hend
      obtain rfl : base = String.ofList (front ++ ['/']) := by
        rw [← hbase, String.ofList_toList]
      have happend : String.ofList (front ++ ['/']) ++ path =
          String.ofList (front ++ '/' :: path.toList) := by
        rw [← String.toList_inj]
        simp
      have hnone : segments (String.ofList []) = [] := rfl
      rw [happend, segments_append_slash, segments_append_slash, hnone, List.append_nil,
        String.ofList_toList]
  · have happend : base ++ "/" ++ path =
        String.ofList (base.toList ++ '/' :: path.toList) := by
      rw [← String.toList_inj]
      simp
    rw [happend, segments_append_slash, String.ofList_toList, String.ofList_toList]

theorem join_of_isAbsolute (base : String) (h : isAbsolute path = true) :
    join base path = path := by
  rw [join, if_pos h]

theorem isAbsolute_join (base : String) (h : isAbsolute path = false) (hempty : base ≠ "") :
    isAbsolute (join base path) = isAbsolute base := by
  obtain ⟨c, rest, hbase⟩ :=
    List.exists_cons_of_ne_nil fun hnil ↦ hempty (String.toList_inj.1 hnil)
  rw [join, if_neg (by simp [h])]
  split <;> simp [isAbsolute, hbase]

theorem ne_empty_of_isAbsolute (h : isAbsolute base = true) : base ≠ "" := by
  rintro rfl
  cases h

theorem isAbsolute_join_of_base (h : isAbsolute base = true) (path : String) :
    isAbsolute (join base path) = true := by
  cases hpath : isAbsolute path with
  | true => rwa [join_of_isAbsolute base hpath]
  | false => rwa [isAbsolute_join base hpath (ne_empty_of_isAbsolute h)]

theorem segments_join_join (base path other : String) :
    segments (join (join base path) other) = segments (join base (join path other)) := by
  cases hother : isAbsolute other with
  | true =>
    rw [join_of_isAbsolute _ hother, join_of_isAbsolute _ hother, join_of_isAbsolute _ hother]
  | false =>
    rw [segments_join _ hother]
    cases hpath : isAbsolute path with
    | true =>
      have hjoin := isAbsolute_join_of_base hpath other
      rw [join_of_isAbsolute _ hpath, join_of_isAbsolute _ hjoin, segments_join _ hother]
    | false =>
      by_cases hempty : path = ""
      · subst hempty
        have hjoin : join "" other = other := by
          rw [join, if_neg (by simp [hother]), if_pos (by rfl), String.empty_append]
        have hnone : segments "" = [] := rfl
        rw [segments_join _ hpath, hjoin, segments_join _ hother, hnone, List.append_nil]
      · have hjoin := (isAbsolute_join path hother hempty).trans hpath
        rw [segments_join _ hpath, segments_join _ hjoin, segments_join _ hother,
          List.append_assoc]

theorem resolve_eq (hbase : isAbsolute base = true) (path : String) :
    resolve base path = String.ofList (spelled (segments (join base path))) := by
  have hnamed : ∀ p ∈ segments (join base path), Named p := fun p ↦ named_of_mem_segments
  have hroot : ∀ c ∈ (segments (join base path)).filterMap component?, c ≠ .root := by
    intro c hc
    obtain ⟨p, hp, hpc⟩ := List.mem_filterMap.1 hc
    exact (named_of_component? hpc (hnamed p hp).no_slash).2
  have hjoined : joined (segments (join base path)) =
      ofComponents ((segments (join base path)).filterMap component?) := by
    rw [ofComponents_eq_joined hroot, map_chars_filterMap hnamed]
  rw [resolve, components_of_isAbsolute (isAbsolute_join_of_base hbase path), spelled, hjoined]
  cases (segments (join base path)).filterMap component? <;> rfl

theorem resolved_resolve (hbase : isAbsolute base = true) (path : String) :
    Resolved (resolve base path) :=
  ⟨_, fun _ ↦ named_of_mem_segments, resolve_eq hbase path⟩

theorem isAbsolute_spelled (names : List (List Char)) :
    isAbsolute (String.ofList (spelled names)) = true := by
  rw [isAbsolute, String.toList_ofList]
  rfl

theorem isAbsolute_resolve (hbase : isAbsolute base = true) (path : String) :
    isAbsolute (resolve base path) = true :=
  resolve_eq hbase path ▸ isAbsolute_spelled _

theorem segments_resolve (hbase : isAbsolute base = true) (path : String) :
    segments (resolve base path) = segments (join base path) := by
  rw [resolve_eq hbase, segments_spelled fun p ↦ named_of_mem_segments]

theorem resolve_eq_iff (hbase : isAbsolute base = true) :
    resolve base path = resolve base other ↔
      segments (join base path) = segments (join base other) := by
  constructor
  · intro h
    rw [← segments_resolve hbase, h, segments_resolve hbase]
  · intro h
    rw [resolve_eq hbase, h, ← resolve_eq hbase]

theorem canonical_spelled (h : ∀ p ∈ names, Named p) :
    Canonical (String.ofList (spelled names)) := by
  have hpieces : pieces (spelled names) = [] :: pieces (joined names) := rfl
  by_cases hn : names = []
  · subst hn
    exact ⟨rfl, fun hroot ↦ absurd rfl hroot, by decide, fun hroot ↦ absurd rfl hroot⟩
  · rw [pieces_joined hn h] at hpieces
    have hempty : [] ∉ names := fun hmem ↦ (h [] hmem).not_empty rfl
    refine ⟨isAbsolute_spelled names, fun _ ↦ ?_, ?_, fun _ hlast ↦ ?_⟩
    · rwa [String.toList_ofList, hpieces]
    · rw [String.toList_ofList, hpieces]
      exact List.not_mem_cons_of_ne_of_not_mem (by simp) fun hmem ↦ (h _ hmem).not_dot rfl
    · -- A slash at the end has an empty piece behind it.
      obtain ⟨front, hfront⟩ := List.getLast?_eq_some_iff.1 hlast
      rw [String.toList_ofList] at hfront
      have hend : pieces (spelled names) = pieces front ++ [[]] := by
        rw [hfront, pieces_append]
        rfl
      obtain ⟨p, ps, hps⟩ := List.exists_cons_of_ne_nil (pieces_ne_nil front)
      rw [hpieces, hps, List.cons_append] at hend
      exact hempty ((List.cons.inj hend).2 ▸ by simp)

theorem canonical_resolve (hbase : isAbsolute base = true) (path : String) :
    Canonical (resolve base path) :=
  resolve_eq hbase path ▸ canonical_spelled fun _ ↦ named_of_mem_segments

theorem resolve_resolve (hbase : isAbsolute base = true) (path : String) :
    resolve base (resolve base path) = resolve base path := by
  rw [resolve_eq_iff hbase, join_of_isAbsolute _ (isAbsolute_resolve hbase path),
    segments_resolve hbase]

theorem segments_join_congr (h : segments path = segments other) (tail : String) :
    segments (join path tail) = segments (join other tail) := by
  cases htail : isAbsolute tail with
  | true => rw [join_of_isAbsolute _ htail, join_of_isAbsolute _ htail]
  | false => rw [segments_join _ htail, segments_join _ htail, h]

theorem resolve_join (hbase : isAbsolute base = true) (path other : String) :
    resolve (resolve base path) other = resolve base (join path other) := by
  rw [resolve_eq (isAbsolute_resolve hbase path), resolve_eq hbase (join path other),
    ← segments_join_join, segments_join_congr (segments_resolve hbase path)]

/-- How a path is spelled makes no difference once it is resolved. -/
theorem Respelled.resolve_eq (h : Respelled path other) (hbase : isAbsolute base = true) :
    resolve base other = resolve base path := by
  rw [resolve_eq_iff hbase]
  cases hpath : isAbsolute path with
  | true =>
    rw [join_of_isAbsolute _ hpath, join_of_isAbsolute _ (h.absolute_eq.trans hpath),
      h.segments_eq]
  | false =>
    rw [segments_join _ hpath, segments_join _ (h.absolute_eq.trans hpath), h.segments_eq]

end StyleTypings.Path
