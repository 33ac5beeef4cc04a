import Mathlib
import StyleTypings.Generator
import StyleTypings.Proofs.Typings.RoundTrip

namespace StyleTypings.Typings

def isFeed (c : Char) : Bool := c == '\n' || c == '\r'

def isSeparator (c : Char) : Bool := c == '\u2028' || c == '\u2029'

def endsLine (c : Char) : Bool := isFeed c || isSeparator c

def interfaceStart : List Char := "interface CSSExports \x7b".toList

def interfaceLine (names : List String) : List Char :=
  interfaceStart ++ (names.flatMap property ++ interfaceEnd)

def namedExport : List Char := "export const exports: CSSExports;".toList

def defaultExport : List Char := "export default exports;".toList

def documentLines (names : List String) : List (List Char) :=
  [header.toList, interfaceLine names, namedExport, defaultExport]

variable {p : Char → Bool} {names : List String}

theorem length_splitOnP (p : Char → Bool) (text : List Char) :
    (text.splitOnP p).length = text.countP p + 1 := by
  induction text with
  | nil => rfl
  | cons c text ih =>
    rw [List.splitOnP_cons_eq_if_modifyHead, List.countP_cons]
    split
    · rw [List.length_cons, ih]
    · rw [List.length_modifyHead, ih, Nat.add_zero]

theorem toList_render_lines (names : List String) :
    (render names).toList = header.toList ++
      '\n' :: (interfaceLine names ++ '\n' :: (namedExport ++ '\n' :: defaultExport)) := by
  have hbeginning : beginning = header.toList ++ '\n' :: interfaceStart := by decide +kernel
  have hexports : exportLines = '\n' :: (namedExport ++ '\n' :: defaultExport) := by decide +kernel
  rw [toList_render, hbeginning, hexports, interfaceLine]
  simp only [List.append_assoc, List.cons_append]

theorem filter_escape (name : List Char) :
    (escape name).filter endsLine = name.filter isSeparator := by
  have hchar (c : Char) : (escapeChar c).filter endsLine = [c].filter isSeparator := by
    unfold escapeChar
    split
    · decide
    · decide
    · decide
    · decide
    next hslash hquote hfeed hreturn =>
      have hends : endsLine c = isSeparator c := by
        simp [endsLine, isFeed, beq_eq_false_iff_ne.2 hfeed, beq_eq_false_iff_ne.2 hreturn]
      simp only [List.filter_cons, hends, List.filter_nil]
  induction name with
  | nil => rfl
  | cons c name ih =>
    rw [escape, List.flatMap_cons, List.filter_append, hchar, ← escape, ih, ← List.filter_append,
      List.singleton_append]

theorem filter_property (name : String) :
    (property name).filter endsLine = name.toList.filter isSeparator := by
  have hopening : keyOpening.filter endsLine = [] := by decide +kernel
  have hclosing : keyClosing.filter endsLine = [] := by decide +kernel
  rw [property, List.filter_append, List.filter_append, hopening, hclosing, filter_escape,
    List.nil_append, List.append_nil]

theorem filter_interfaceLine (names : List String) :
    (interfaceLine names).filter endsLine =
      (names.flatMap String.toList).filter isSeparator := by
  have hopening : interfaceStart.filter endsLine = [] := by decide +kernel
  have hclosing : interfaceEnd.filter endsLine = [] := by decide +kernel
  rw [interfaceLine, List.filter_append, List.filter_append, hopening, hclosing, List.nil_append,
    List.append_nil, List.filter_flatMap, List.filter_flatMap]
  simp only [filter_property]

/-- Cutting at line feeds gives the lines of a document, if nothing else is cut. -/
theorem splitOnP_render (hfeed : p '\n' = true)
    (h : ∀ line ∈ documentLines names, ∀ c ∈ line, p c = false) :
    (render names).toList.splitOnP p = documentLines names := by
  simp only [documentLines, List.forall_mem_cons] at h
  obtain ⟨hheader, hinterface, hconst, hdefault, -⟩ := h
  rw [toList_render_lines, List.splitOnP_append_cons _ _ hfeed,
    List.splitOnP_append_cons _ _ hfeed, List.splitOnP_append_cons _ _ hfeed,
    List.splitOnP_eq_singleton hheader, List.splitOnP_eq_singleton hinterface,
    List.splitOnP_eq_singleton hconst, List.splitOnP_eq_singleton hdefault]
  rfl

theorem forall_documentLines (h : ∀ c ∈ interfaceLine names, p c = false)
    (hp : ∀ c, p c = true → endsLine c = true) :
    ∀ line ∈ documentLines names, ∀ c ∈ line, p c = false := by
  have hplain {text : List Char} (htext : text.filter endsLine = []) : ∀ c ∈ text, p c = false := by
    intro c hc
    have hnot := List.filter_eq_nil_iff.1 htext c hc
    exact Bool.eq_false_iff.2 fun hpc ↦ hnot (hp c hpc)
  simp only [documentLines, List.forall_mem_cons]
  exact ⟨hplain (by decide +kernel), h, hplain (by decide +kernel), hplain (by decide +kernel),
    by simp⟩

theorem countP_render (names : List String) :
    (render names).toList.countP endsLine =
      3 + (names.flatMap String.toList).countP isSeparator := by
  have hinterface := congrArg List.length (filter_interfaceLine names)
  rw [← List.countP_eq_length_filter, ← List.countP_eq_length_filter] at hinterface
  have hheader : header.toList.countP endsLine = 0 := by decide +kernel
  have hexports : ('\n' :: (namedExport ++ '\n' :: defaultExport)).countP endsLine = 2 := by
    decide +kernel
  have hfeed : endsLine '\n' = true := rfl
  rw [toList_render_lines, List.countP_append, hheader, List.countP_cons_of_pos hfeed,
    List.countP_append, hinterface, hexports]
  omega

/-- A document has four lines by its line feeds and carriage returns, and one more for each
separator in its names: a separator stands in the literal of its name as it is. -/
theorem lines_render (names : List String) :
    (render names).toList.splitOnP isFeed = documentLines names ∧
      ((render names).toList.splitOnP endsLine).length =
        4 + (names.flatMap String.toList).countP isSeparator ∧
      ((render names).toList.splitOnP endsLine = documentLines names ↔
        ∀ name ∈ names, ∀ c ∈ name.toList, isSeparator c = false) ∧
      ∀ name : String, (escape name.toList).filter endsLine = name.toList.filter isSeparator := by
  have hfeeds (c : Char) : isFeed c = true → endsLine c = true := fun h ↦ by simp [endsLine, h]
  have hlength : ((render names).toList.splitOnP endsLine).length =
      4 + (names.flatMap String.toList).countP isSeparator := by
    rw [length_splitOnP, countP_render]
    omega
  refine ⟨splitOnP_render rfl (forall_documentLines (fun c hc ↦ ?_) hfeeds), hlength,
    ⟨fun h name hname c hc ↦ ?_, fun h ↦ ?_⟩, fun name ↦ filter_escape name.toList⟩
  · -- What ends a line of the interface is a separator, and no feed.
    refine Bool.eq_false_iff.2 fun hfeed ↦ ?_
    have hmem : c ∈ (interfaceLine names).filter endsLine := List.mem_filter.2 ⟨hc, hfeeds c hfeed⟩
    rw [filter_interfaceLine] at hmem
    have hsep := (List.mem_filter.1 hmem).2
    simp only [isFeed, isSeparator, Bool.or_eq_true, beq_iff_eq] at hfeed hsep
    rcases hfeed with rfl | rfl <;> exact absurd hsep (by decide +kernel)
  · have hnone : (names.flatMap String.toList).countP isSeparator = 0 := by
      have hfour := congrArg List.length h
      rw [hlength, documentLines] at hfour
      simpa using hfour
    exact Bool.eq_false_iff.2
      (List.countP_eq_zero.1 hnone c (List.mem_flatMap.2 ⟨name, hname, hc⟩))
  · refine splitOnP_render rfl (forall_documentLines (fun c hc ↦ ?_) fun _ ↦ id)
    have hnil : (interfaceLine names).filter endsLine = [] := by
      rw [filter_interfaceLine, List.filter_eq_nil_iff]
      intro c hc
      obtain ⟨name, hname, hc⟩ := List.mem_flatMap.1 hc
      simp [h name hname c hc]
    exact Bool.eq_false_iff.2 (List.filter_eq_nil_iff.1 hnil c hc)

/-- An escape in a stylesheet puts a separator into a name, and the document has five lines. -/
theorem lines_render_separator :
    Generator.namesOf ".\\2028 \x7b\x7d" "x.module.css" = .ok ["\u2028"] ∧
      '\u2028' ∈ escape "\u2028".toList ∧
      ((render ["\u2028"]).toList.splitOnP endsLine).length = 5 := by
  refine ⟨by cbv, by decide, ?_⟩
  rw [length_splitOnP, countP_render]
  decide

end StyleTypings.Typings
