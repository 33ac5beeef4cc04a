import Mathlib.Data.List.Infix
import StyleTypings.Path

namespace StyleTypings.Path

/-- A piece of a path that stands for a component. -/
structure Named (piece : List Char) : Prop where
  not_empty : piece ≠ []
  not_dot : piece ≠ ['.']
  no_slash : '/' ∉ piece

def joined : List (List Char) → List Char
  | [] => []
  | [p] => p
  | p :: ps => p ++ '/' :: joined ps

def spelled (names : List (List Char)) : List Char := '/' :: joined names

def Resolved (path : String) : Prop :=
  ∃ names, (∀ p ∈ names, Named p) ∧ path = String.ofList (spelled names)

def stem (names : List (List Char)) : List Char :=
  if names = [] then ['/'] else spelled names ++ ['/']

variable {names front : List (List Char)} {piece : List Char}

theorem Named.exists_component? (h : Named piece) : ∃ c, component? piece = some c := by
  unfold component?
  split
  next h' => simp [h.not_empty, h.not_dot] at h'
  · split <;> exact ⟨_, rfl⟩

theorem chars_of_component? {c : Component} (h : component? piece = some c) : c.chars = piece := by
  unfold component? at h
  split at h
  · cases h
  · split at h
    next h' =>
      cases h
      exact (beq_iff_eq.1 h').symm
    · cases h
      rfl

theorem map_chars_filterMap (h : ∀ p ∈ names, Named p) :
    (names.filterMap component?).map Component.chars = names := by
  induction names with
  | nil => rfl
  | cons p names ih =>
    obtain ⟨c, hc⟩ := (h p (List.mem_cons_self ..)).exists_component?
    rw [List.filterMap_cons_some hc, List.map_cons, chars_of_component? hc,
      ih fun q hq ↦ h q (List.mem_cons_of_mem _ hq)]

theorem pieces_of_no_slash (h : '/' ∉ piece) : pieces piece = [piece] := by
  induction piece with
  | nil => rfl
  | cons c piece ih =>
    simp only [List.mem_cons, not_or] at h
    have hc : (c == '/') = false := beq_eq_false_iff_ne.2 (Ne.symm h.1)
    simp only [pieces, hc, ih h.2]
    rfl

theorem pieces_ne_nil (path : List Char) : pieces path ≠ [] := by
  unfold pieces
  split
  · simp
  · split
    · simp
    · split <;> simp

theorem pieces_append (a b : List Char) : pieces (a ++ '/' :: b) = pieces a ++ pieces b := by
  induction a with
  | nil => simp [pieces]
  | cons c a ih =>
    simp only [List.cons_append, pieces, ih]
    split
    · rfl
    · cases hp : pieces a with
      | nil => exact absurd hp (pieces_ne_nil a)
      | cons p ps => rfl

theorem pieces_append_slash (h : '/' ∉ piece) (rest : List Char) :
    pieces (piece ++ '/' :: rest) = piece :: pieces rest := by
  rw [pieces_append, pieces_of_no_slash h]
  rfl

theorem pieces_joined (hn : names ≠ []) (h : ∀ p ∈ names, Named p) :
    pieces (joined names) = names := by
  induction names with
  | nil => exact absurd rfl hn
  | cons p names ih =>
    have hp := (h p (List.mem_cons_self ..)).no_slash
    cases names with
    | nil => exact pieces_of_no_slash hp
    | cons q names =>
      rw [joined, pieces_append_slash hp, ih (by simp) fun r hr ↦ h r (List.mem_cons_of_mem _ hr)]
      simp

theorem components_spelled (h : ∀ p ∈ names, Named p) :
    componentsOf (spelled names) = .root :: names.filterMap component? := by
  have hpieces : (pieces (joined names)).filterMap component? = names.filterMap component? := by
    by_cases hn : names = []
    · subst hn
      rfl
    · rw [pieces_joined hn h]
  simp only [componentsOf, spelled, head, body, Option.toList_some, List.length_singleton,
    List.drop_succ_cons, List.drop_zero, List.cons_append, List.nil_append, hpieces]

theorem eq_of_components_eq (h : ∀ p ∈ names, Named p) (h' : ∀ p ∈ front, Named p)
    (he : componentsOf (spelled names) = componentsOf (spelled front)) : names = front := by
  rw [components_spelled h, components_spelled h'] at he
  rw [← map_chars_filterMap h, ← map_chars_filterMap h', (List.cons.inj he).2]

theorem startsWith_spelled_iff (h : ∀ p ∈ names, Named p) (h' : ∀ p ∈ front, Named p) :
    startsWith (String.ofList (spelled names)) (String.ofList (spelled front)) = true ↔
      front <+: names := by
  simp only [startsWith, components, String.toList_ofList, components_spelled h,
    components_spelled h', List.isPrefixOf_iff_prefix, List.cons_prefix_cons, true_and]
  constructor
  · intro hp
    have := hp.map Component.chars
    rwa [map_chars_filterMap h, map_chars_filterMap h'] at this
  · exact fun hp ↦ hp.filterMap component?

theorem joined_append (hn : front ≠ []) (piece : List Char) :
    joined (front ++ [piece]) = joined front ++ '/' :: piece := by
  induction front with
  | nil => exact absurd rfl hn
  | cons p front ih =>
    cases front with
    | nil => rfl
    | cons q front =>
      have := ih (by simp)
      simp only [List.cons_append, joined] at this ⊢
      rw [this]
      simp

theorem spelled_append_name (front : List (List Char)) (piece : List Char) :
    spelled (front ++ [piece]) = stem front ++ piece := by
  unfold stem
  split
  next h =>
    subst h
    rfl
  next h =>
    rw [spelled, joined_append h, spelled]
    simp

theorem stem_append_name (front : List (List Char)) (piece : List Char) :
    stem (front ++ [piece]) = stem front ++ piece ++ ['/'] := by
  rw [stem, if_neg (by simp), spelled_append_name]

theorem prefixesFrom_stem (h : ∀ p ∈ names, Named p) (front : List (List Char)) :
    prefixesFrom (stem front) names = names.inits.tail.map fun ps ↦ spelled (front ++ ps) := by
  induction names generalizing front with
  | nil => rfl
  | cons p names ih =>
    obtain ⟨c, hc⟩ := (h p (List.mem_cons_self ..)).exists_component?
    simp only [prefixesFrom, hc, Option.isSome_some, if_true]
    rw [← stem_append_name, ih (fun q hq ↦ h q (List.mem_cons_of_mem _ hq)),
      ← spelled_append_name]
    rw [List.inits_cons, List.tail_cons, List.map_map]
    cases names with
    | nil => simp
    | cons q names => simp [Function.comp_def]

theorem prefixesOf_spelled (h : ∀ p ∈ names, Named p) :
    prefixesOf (spelled names) = names.inits.map spelled := by
  have hfrom : prefixesFrom ['/'] (pieces (joined names)) = names.inits.tail.map spelled := by
    by_cases hn : names = []
    · subst hn
      rfl
    · rw [pieces_joined hn h]
      exact prefixesFrom_stem h []
  have hbody : body (spelled names) = joined names := rfl
  have hhead : head (spelled names) = some .root := rfl
  simp only [prefixesOf, hbody, hhead, Option.toList_some, List.flatMap_cons, List.flatMap_nil,
    Component.chars, List.append_nil, hfrom]
  cases names <;> rfl

theorem ancestors_spelled (h : ∀ p ∈ names, Named p) (piece : List Char) (hp : Named piece) :
    ancestors (String.ofList (spelled (names ++ [piece]))) =
      names.inits.reverse.map fun ps ↦ String.ofList (spelled ps) := by
  have hall : ∀ p ∈ names ++ [piece], Named p := by
    intro p hm
    rcases List.mem_append.1 hm with hm | hm
    · exact h p hm
    · exact List.mem_singleton.1 hm ▸ hp
  rw [ancestors, String.toList_ofList, prefixesOf_spelled hall, List.inits_append]
  simp

theorem no_slash_of_mem_pieces {path : List Char} (h : piece ∈ pieces path) : '/' ∉ piece := by
  induction path generalizing piece with
  | nil =>
    obtain rfl := List.mem_singleton.1 h
    simp
  | cons c path ih =>
    unfold pieces at h
    split at h
    next =>
      rcases List.mem_cons.1 h with rfl | h
      · simp
      · exact ih h
    next hc =>
      have hc : '/' ≠ c := fun he ↦ hc (by simp [← he])
      split at h
      next =>
        obtain rfl := List.mem_singleton.1 h
        simp [hc]
      next p ps hps =>
        rcases List.mem_cons.1 h with rfl | h
        · simp [hc, ih (hps ▸ List.mem_cons_self ..)]
        · exact ih (hps ▸ List.mem_cons_of_mem _ h)

theorem named_of_component? {c : Component} (h : component? piece = some c) (hs : '/' ∉ piece) :
    Named piece ∧ c ≠ .root := by
  unfold component? at h
  split at h
  next => cases h
  next hn =>
    simp only [Bool.or_eq_true, beq_iff_eq, not_or] at hn
    refine ⟨⟨hn.1, hn.2, hs⟩, ?_⟩
    split at h <;> cases h <;> simp

theorem ofComponents_eq_joined {cs : List Component} (h : ∀ c ∈ cs, c ≠ .root) :
    ofComponents cs = joined (cs.map Component.chars) := by
  induction cs with
  | nil => rfl
  | cons c cs ih =>
    have hc := h c (List.mem_cons_self ..)
    have ih := ih fun d hd ↦ h d (List.mem_cons_of_mem _ hd)
    cases cs with
    | nil => simp [ofComponents, joined]
    | cons d cs =>
      cases c with
      | root => exact absurd rfl hc
      | current | parent | name _ => simp only [ofComponents, ih, List.map_cons, joined]

end StyleTypings.Path
