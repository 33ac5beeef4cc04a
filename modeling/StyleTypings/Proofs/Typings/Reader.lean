import StyleTypings.Typings

namespace StyleTypings.Typings

def expect : (text : List Char) → List Char → Option (List Char)
  | [], s => some s
  | _ :: _, [] => none
  | c :: text, d :: s => if c = d then expect text s else none

def meaning? : Char → Option Char
  | '\\' => some '\\'
  | '\'' => some '\''
  | 'n' => some '\n'
  | 'r' => some '\r'
  | _ => none

/-- Reads a literal behind its opening quote. The answer is its text and what follows its closing
quote. -/
def literal : List Char → Option (List Char × List Char)
  | [] => none
  | '\'' :: rest => some ([], rest)
  | '\n' :: _ => none
  | '\r' :: _ => none
  | ['\\'] => none
  | '\\' :: c :: rest =>
    match meaning? c, literal rest with
    | some m, some (name, after) => some (m :: name, after)
    | _, _ => none
  | c :: rest =>
    match literal rest with
    | some (name, after) => some (c :: name, after)
    | none => none

def beginning : List Char := "// AUTO-GENERATED\ninterface CSSExports \x7b".toList

def quoteOpening : List Char := [' ', '\'']

def propertyEnd : List Char := ": string;".toList

def interfaceEnd : List Char := " \x7d".toList

def exportLines : List Char :=
  "\nexport const exports: CSSExports;\nexport default exports;".toList

theorem length_of_expect {text s rest : List Char} (h : expect text s = some rest) :
    s.length = text.length + rest.length := by
  induction text generalizing s with
  | nil =>
    cases h
    exact (Nat.zero_add _).symm
  | cons c text ih =>
    cases s with
    | nil => cases h
    | cons d s =>
      simp only [expect] at h
      split at h
      · have := ih h
        simp only [List.length_cons]
        omega
      · cases h

theorem length_of_literal {s name rest : List Char} (h : literal s = some (name, rest)) :
    rest.length ≤ s.length := by
  fun_induction literal s generalizing name with
  | case1 | case3 | case4 | case5 | case7 | case9 => cases h
  | case2 after =>
    cases h
    exact Nat.le_succ _
  | case6 c after m name' rest' hl _ ih =>
    cases h
    have := ih hl
    simp only [List.length_cons]
    omega
  | case8 c after _ _ _ _ _ name' rest' hl ih =>
    cases h
    exact Nat.le_succ_of_le (ih hl)

/-- Reads a property. The answer is its name and what follows. -/
def property? (s : List Char) : Option (List Char × List Char) := do
  let behindQuote ← expect quoteOpening s
  let (name, behindName) ← literal behindQuote
  let rest ← expect propertyEnd behindName
  return (name, rest)

theorem property?_eq_some_iff {s name rest : List Char} :
    property? s = some (name, rest) ↔ ∃ behindQuote behindName,
      expect quoteOpening s = some behindQuote ∧ literal behindQuote = some (name, behindName) ∧
        expect propertyEnd behindName = some rest := by
  simp only [property?, Option.bind_eq_bind, Option.bind_eq_some_iff, Option.pure_def,
    Option.some.injEq, Prod.mk.injEq]
  constructor
  · rintro ⟨behindQuote, hq, ⟨_, behindName⟩, hl, _, he, rfl, rfl⟩
    exact ⟨behindQuote, behindName, hq, hl, he⟩
  · rintro ⟨behindQuote, behindName, hq, hl, he⟩
    exact ⟨behindQuote, hq, (name, behindName), hl, rest, he, rfl, rfl⟩

theorem length_of_property? {s name rest : List Char} (h : property? s = some (name, rest)) :
    rest.length < s.length := by
  obtain ⟨behindQuote, behindName, hq, hl, he⟩ := property?_eq_some_iff.1 h
  have h₁ : s.length = 2 + behindQuote.length := length_of_expect hq
  have h₂ := length_of_literal hl
  have h₃ := length_of_expect he
  omega

/-- Reads properties up to the end of the interface. The answer is their names and what follows. -/
def properties (s : List Char) : Option (List String × List Char) :=
  match h : property? s with
  | none =>
    match expect interfaceEnd s with
    | some rest => some ([], rest)
    | none => none
  | some (name, later) =>
    have := length_of_property? h
    match properties later with
    | some (names, rest) => some (String.ofList name :: names, rest)
    | none => none
termination_by s.length

theorem properties_of_end {s : List Char} (h : property? s = none) :
    properties s = (expect interfaceEnd s).map fun rest ↦ ([], rest) := by
  rw [properties]
  split
  · cases expect interfaceEnd s <;> rfl
  · simp_all

theorem properties_of_property {s name later : List Char} (h : property? s = some (name, later)) :
    properties s = (properties later).map fun p ↦ (String.ofList name :: p.1, p.2) := by
  rw [properties]
  split
  · simp_all
  · rename_i name' later' h'
    obtain ⟨rfl, rfl⟩ : name' = name ∧ later' = later := by simp_all
    cases properties later' <;> rfl

def read (text : String) : Option (List String) := do
  let s ← expect beginning text.toList
  let (names, rest) ← properties s
  if rest = exportLines then some names else none

end StyleTypings.Typings
