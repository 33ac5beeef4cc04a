import StyleTypings.Exclusion
import StyleTypings.Proofs.Path.Spelling

namespace StyleTypings

namespace Path

theorem head_cases (path : List Char) :
    (∃ rest, path = '/' :: rest) ∨ (∃ rest, path = '.' :: '/' :: rest) ∨ path = ['.'] ∨
      head path = none := by
  unfold head
  split <;> simp

theorem head_append {path : List Char} (h : path ≠ []) (more : List Char) :
    head (path ++ '/' :: more) = head path := by
  obtain ⟨c, path, rfl⟩ := List.exists_cons_of_ne_nil h
  by_cases hc : c = '/'
  · subst hc
    rfl
  · by_cases hd : c = '.'
    · subst hd
      cases path with
      | nil => rfl
      | cons c' path =>
        by_cases hs : c' = '/'
        · subst hs
          rfl
        · simp [head, hs]
    · simp [head, hc, hd]

theorem componentsOf_append {path : List Char} (h : path ≠ []) (more : List Char) :
    componentsOf (path ++ '/' :: more) =
      componentsOf path ++ (pieces more).filterMap component? := by
  have hbody : body (path ++ '/' :: more) = body path ++ '/' :: more := by
    rw [body, body, head_append h]
    obtain ⟨c, path, rfl⟩ := List.exists_cons_of_ne_nil h
    cases head (c :: path) <;> rfl
  rw [componentsOf, componentsOf, hbody, head_append h, pieces_append, List.filterMap_append,
    List.append_assoc]

def LeadsTo (path longer : List Char) : Prop :=
  path = [] ∨ path = ['/'] ∧ (∃ more, longer = '/' :: more) ∨
    path ≠ [] ∧ ∃ more, longer = path ++ '/' :: more

theorem LeadsTo.components_prefix {path longer : List Char} (h : LeadsTo path longer) :
    componentsOf path <+: componentsOf longer := by
  rcases h with rfl | ⟨rfl, more, rfl⟩ | ⟨hpath, more, rfl⟩
  · exact List.nil_prefix
  · exact List.prefix_append [Component.root] _
  · exact componentsOf_append hpath more ▸ List.prefix_append ..

theorem exists_of_mem_prefixesFrom {start path : List Char} {ps : List (List Char)}
    (h : path ∈ prefixesFrom start ps) : ∃ more, path = start ++ more := by
  induction ps generalizing start with
  | nil => cases h
  | cons p ps ih =>
    have hlater (h : path ∈ prefixesFrom (start ++ p ++ ['/']) ps) :
        ∃ more, path = start ++ more := by
      obtain ⟨more, rfl⟩ := ih h
      exact ⟨p ++ ['/'] ++ more, by simp⟩
    simp only [prefixesFrom] at h
    split at h
    · rcases List.mem_cons.1 h with rfl | h
      · exact ⟨p, rfl⟩
      · exact hlater h
    · exact hlater h

theorem pairwise_prefixesFrom (start : List Char) (ps : List (List Char)) :
    (prefixesFrom start ps).Pairwise LeadsTo := by
  induction ps generalizing start with
  | nil => exact .nil
  | cons p ps ih =>
    simp only [prefixesFrom]
    split
    next hp =>
      refine List.pairwise_cons.2 ⟨fun path hpath ↦ ?_, ih _⟩
      obtain ⟨more, rfl⟩ := exists_of_mem_prefixesFrom hpath
      refine .inr (.inr ⟨fun hnil ↦ ?_, more, by simp⟩)
      obtain rfl := (List.append_eq_nil_iff.1 hnil).2
      cases hp
    · exact ih _

theorem pairwise_prefixesOf (path : List Char) : (prefixesOf path).Pairwise LeadsTo := by
  have hnil : ∀ {longer}, LeadsTo [] longer := .inl rfl
  refine List.pairwise_append.2 ⟨?_, pairwise_prefixesFrom _ _, fun a ha b hb ↦ ?_⟩
  · split <;> simp [hnil]
  · rcases head_cases path with ⟨rest, rfl⟩ | ⟨rest, rfl⟩ | rfl | hhead
    · obtain rfl := List.mem_singleton.1 ha
      obtain ⟨more, rfl⟩ := exists_of_mem_prefixesFrom hb
      exact .inr (.inl ⟨rfl, more, rfl⟩)
    · rcases List.mem_pair.1 ha with rfl | rfl
      · exact hnil
      · obtain ⟨more, rfl⟩ : ∃ more, b = ['.', '/'] ++ more := exists_of_mem_prefixesFrom hb
        exact .inr (.inr ⟨by simp, more, rfl⟩)
    · cases hb
    · rw [hhead] at ha
      exact List.mem_singleton.1 ha ▸ hnil

/-- Nearer directories lie below farther ones. -/
theorem pairwise_ancestors (path : String) :
    (ancestors path).Pairwise fun near far ↦ components far <+: components near := by
  rw [ancestors, List.pairwise_map]
  refine (List.pairwise_reverse.2 ?_).sublist (List.drop_sublist 1 _)
  refine (pairwise_prefixesOf path.toList).imp fun h ↦ ?_
  simpa [components] using h.components_prefix

theorem startsWith_self (path : String) : startsWith path path = true := by
  simp [startsWith]

end Path

/-- Once a property fails behind some place, taking while it holds is filtering. -/
theorem takeWhile_eq_filter {α : Type} {p : α → Bool} {as : List α}
    (h : as.Pairwise fun a b ↦ p b = true → p a = true) : as.takeWhile p = as.filter p := by
  induction as with
  | nil => rfl
  | cons a as ih =>
    obtain ⟨hfirst, hrest⟩ := List.pairwise_cons.1 h
    by_cases ha : p a = true
    · rw [List.takeWhile_cons_of_pos ha, List.filter_cons_of_pos ha, ih hrest]
    · have hnone : as.filter p = [] :=
        List.filter_eq_nil_iff.2 fun b hb hpb ↦ ha (hfirst b hb hpb)
      rw [List.takeWhile_cons_of_neg ha, List.filter_cons_of_neg ha, hnone]

theorem Exclusion.coversAncestor_iff_exists {e : Exclusion} {path root : String} :
    e.coversAncestor path root = true ↔
      ∃ dir ∈ Path.ancestors path, Path.startsWith dir root = true ∧ e.excludes dir = true := by
  cases e with
  | none => simp [coversAncestor, excludes]
  | some found =>
    have hmono : (Path.ancestors path).Pairwise fun near far ↦
        Path.startsWith far root = true → Path.startsWith near root = true := by
      refine (Path.pairwise_ancestors path).imp fun hp hs ↦ ?_
      rw [Path.startsWith, List.isPrefixOf_iff_prefix] at hs ⊢
      exact hs.trans hp
    simp only [coversAncestor, excludes, takeWhile_eq_filter hmono, List.any_eq_true,
      List.mem_filter, and_assoc]

end StyleTypings
