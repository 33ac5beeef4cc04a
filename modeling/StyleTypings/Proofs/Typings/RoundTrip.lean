import StyleTypings.Proofs.Typings.Reader

namespace StyleTypings.Typings

theorem expect_eq_some_iff {text s rest : List Char} :
    expect text s = some rest ↔ s = text ++ rest := by
  induction text generalizing s with
  | nil => simp [expect]
  | cons c text ih =>
    cases s with
    | nil => simp [expect]
    | cons d s =>
      by_cases hd : c = d
      · subst hd
        simp [expect, ih]
      · have : d ≠ c := fun h ↦ hd h.symm
        simp [expect, hd, this]

/-- The written form of a character is read as the character, whatever the state in front. -/
theorem literal_escapeChar (c : Char) (s : List Char) :
    literal (escapeChar c ++ s) = (literal s).map fun p ↦ (c :: p.1, p.2) := by
  unfold escapeChar
  split
  case h_1 | h_2 | h_3 | h_4 => cases hs : literal s <;> simp [literal, meaning?, hs]
  case h_5 => cases hs : literal s <;> simp_all [literal]

theorem literal_escape (name rest : List Char) :
    literal (escape name ++ '\'' :: rest) = some (name, rest) := by
  induction name with
  | nil => rfl
  | cons c name ih =>
    simp only [escape, List.flatMap_cons, List.append_assoc] at ih ⊢
    rw [literal_escapeChar, ih]
    rfl

theorem escapeChar_of_meaning? {c m : Char} (h : meaning? c = some m) :
    escapeChar m = ['\\', c] := by
  unfold meaning? at h
  split at h <;> cases h <;> rfl

theorem eq_of_literal {s name rest : List Char} (h : literal s = some (name, rest)) :
    s = escape name ++ '\'' :: rest := by
  fun_induction literal s generalizing name with
  | case1 | case3 | case4 | case5 | case7 | case9 => cases h
  | case2 => cases h; rfl
  | case6 c after m name' rest' hl hm ih =>
    cases h
    rw [ih hl]
    simp only [escape, List.flatMap_cons, escapeChar_of_meaning? hm, List.cons_append,
      List.nil_append]
  | case8 c after hquote hfeed hreturn hend hslash name' rest' hl ih =>
    cases h
    rw [ih hl]
    have hc : escapeChar c = [c] := by
      unfold escapeChar
      split
      · cases after with
        | nil => exact absurd rfl (hend rfl)
        | cons d after => exact absurd rfl (hslash d after rfl)
      · exact absurd rfl hquote
      · exact absurd rfl hfeed
      · exact absurd rfl hreturn
      · rfl
    simp only [escape, List.flatMap_cons, hc, List.cons_append, List.nil_append]

theorem literal_eq_some_iff {s name rest : List Char} :
    literal s = some (name, rest) ↔ s = escape name ++ '\'' :: rest :=
  ⟨eq_of_literal, fun h ↦ h ▸ literal_escape name rest⟩

theorem property?_eq_some_iff_eq {s name rest : List Char} :
    property? s = some (name, rest) ↔ s = property (String.ofList name) ++ rest := by
  have hsplit : property (String.ofList name) ++ rest =
      quoteOpening ++ (escape name ++ '\'' :: (propertyEnd ++ rest)) := by
    simp only [property, String.toList_ofList, List.append_assoc]
    rfl
  simp only [property?_eq_some_iff, expect_eq_some_iff, literal_eq_some_iff, hsplit]
  constructor
  · rintro ⟨_, _, rfl, rfl, rfl⟩
    rfl
  · rintro rfl
    exact ⟨_, _, rfl, rfl, rfl⟩

theorem property?_interfaceEnd (rest : List Char) : property? (interfaceEnd ++ rest) = none := by
  rfl

/-- Properties are read up to the end of the interface and no further, whatever follows it. -/
theorem properties_flatMap (names : List String) (rest : List Char) :
    properties (names.flatMap property ++ (interfaceEnd ++ rest)) = some (names, rest) := by
  induction names with
  | nil =>
    rw [List.flatMap_nil, List.nil_append, properties_of_end (property?_interfaceEnd rest),
      expect_eq_some_iff.2 rfl]
    rfl
  | cons name names ih =>
    have h : property? (property name ++ (names.flatMap property ++ (interfaceEnd ++ rest))) =
        some (name.toList, names.flatMap property ++ (interfaceEnd ++ rest)) := by
      rw [property?_eq_some_iff_eq, String.ofList_toList]
    rw [List.flatMap_cons, List.append_assoc, properties_of_property h, ih, String.ofList_toList]
    rfl

theorem eq_of_properties {s rest : List Char} {names : List String}
    (h : properties s = some (names, rest)) :
    s = names.flatMap property ++ (interfaceEnd ++ rest) := by
  fun_induction properties s generalizing names with
  | case1 s _ rest' he =>
    cases h
    rw [List.flatMap_nil, List.nil_append]
    exact expect_eq_some_iff.1 he
  | case2 | case4 => cases h
  | case3 s name later hp _ names' rest' hn ih =>
    cases h
    rw [property?_eq_some_iff_eq.1 hp, ih hn, List.flatMap_cons, List.append_assoc]

theorem toList_render (names : List String) :
    (render names).toList =
      beginning ++ (names.flatMap property ++ (interfaceEnd ++ exportLines)) := by
  rw [render, String.toList_ofList, List.append_assoc]
  rfl

theorem read_eq_some_iff {text : String} {names : List String} :
    read text = some names ↔ text = render names := by
  constructor
  · intro h
    simp only [read, Option.bind_eq_bind, Option.bind_eq_some_iff] at h
    obtain ⟨s, hs, ⟨names', rest⟩, hp, hr⟩ := h
    split at hr
    · next he =>
      cases hr
      have hrest : rest = exportLines := he
      have ht := expect_eq_some_iff.1 hs
      rw [eq_of_properties hp, hrest, ← toList_render] at ht
      exact String.toList_inj.1 ht
    · cases hr
  · rintro rfl
    simp only [read, toList_render, expect_eq_some_iff.2 rfl, properties_flatMap,
      Option.bind_eq_bind, Option.bind_some, if_pos]

theorem render_decodes :
    (∀ names, read (render names) = some names) ∧ Function.Injective render ∧
    (∀ name rest, literal (escape name ++ '\'' :: rest) = some (name, rest)) ∧
    (∀ names rest,
      properties (names.flatMap property ++ (interfaceEnd ++ rest)) = some (names, rest)) ∧
    (∀ text names, read text = some names ↔ text = render names) := by
  have hread (names : List String) : read (render names) = some names := read_eq_some_iff.2 rfl
  refine ⟨hread, fun a b h ↦ ?_, literal_escape, properties_flatMap, fun _ _ ↦ read_eq_some_iff⟩
  have : some a = some b := by rw [← hread a, ← hread b, h]
  exact Option.some.inj this

end StyleTypings.Typings
