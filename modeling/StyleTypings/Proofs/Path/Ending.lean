import Mathlib.Data.List.DropRight
import StyleTypings.Dialect
import StyleTypings.Proofs.Path.Spelling

namespace StyleTypings

namespace Path

/-- More text without slashes goes to the last piece. -/
theorem exists_pieces_append {e : List Char} (h : '/' ∉ e) (a : List Char) :
    ∃ front last, pieces (a ++ e) = front ++ [last ++ e] := by
  induction a with
  | nil => exact ⟨[], [], pieces_of_no_slash h⟩
  | cons c a ih =>
    obtain ⟨front, last, hp⟩ := ih
    rw [List.cons_append, pieces]
    split
    · exact ⟨[] :: front, last, by rw [hp]; rfl⟩
    · rw [hp]
      cases front with
      | nil => exact ⟨[], c :: last, rfl⟩
      | cons p front => exact ⟨(c :: p) :: front, last, rfl⟩

def behindLastSlash (path : String) : String :=
  String.ofList (path.toList.rtakeWhile (· != '/'))

theorem behindLastSlash_append {e : List Char} (h : '/' ∉ e) (stem : List Char) :
    behindLastSlash (String.ofList (stem ++ e)) =
      String.ofList (stem.rtakeWhile (· != '/') ++ e) := by
  have hall : ∀ c ∈ e.reverse, (c != '/') = true := by
    intro c hc
    exact bne_iff_ne.2 fun he ↦ h (he ▸ List.mem_reverse.1 hc)
  rw [behindLastSlash, String.toList_ofList, List.rtakeWhile, List.reverse_append,
    List.takeWhile_append_of_pos hall, List.reverse_append, List.reverse_reverse, List.rtakeWhile]

theorem body_eq_or (path : List Char) : body path = path ∨ body path = path.tail := by
  unfold body head
  split <;> simp

end Path

namespace Module

open StyleTypings.Path

theorem no_slash_ending (d : Dialect) : '/' ∉ ending d := by
  cases d <;> decide

theorem component?_ending (last : List Char) (d : Dialect) :
    component? (last ++ ending d) = some (.name (last ++ ending d)) := by
  have hlong : 2 < (last ++ ending d).length := by
    have : 2 < (ending d).length := by cases d <;> decide +kernel
    rw [List.length_append]
    omega
  unfold component?
  rw [if_neg, if_neg]
  · intro h
    rw [eq_of_beq h] at hlong
    exact absurd hlong (by decide)
  · intro h
    rcases Bool.or_eq_true_iff.1 h with h | h <;> rw [eq_of_beq h] at hlong <;>
      exact absurd hlong (by decide)

theorem extensionOf_ending (last : List Char) (d : Dialect) :
    extensionOf (last ++ ending d) = some d.extension.toList := by
  cases d <;> simp only [extensionOf, List.reverse_append] <;> rfl

theorem body_ending (stem : List Char) (d : Dialect) :
    ∃ stem', body (stem ++ ending d) = stem' ++ ending d := by
  cases stem with
  | nil => exact ⟨[], by cases d <;> rfl⟩
  | cons c stem =>
    rcases body_eq_or (c :: stem ++ ending d) with h | h
    · exact ⟨c :: stem, h⟩
    · exact ⟨stem, h⟩

theorem extension?_ending (stem : List Char) (d : Dialect) :
    extension? (String.ofList (stem ++ ending d)) = some d.extension := by
  obtain ⟨stem', hbody⟩ := body_ending stem d
  obtain ⟨front, last, hpieces⟩ := exists_pieces_append (no_slash_ending d) stem'
  have hlast : (componentsOf (stem ++ ending d)).getLast? = some (.name (last ++ ending d)) := by
    rw [componentsOf, hbody, hpieces, List.filterMap_append, ← List.append_assoc,
      List.filterMap_cons_some (component?_ending last d), List.filterMap_nil,
      List.getLast?_concat]
  rw [extension?, components, String.toList_ofList, hlast]
  simp only [extensionOf_ending, Option.map_some, String.ofList_toList]

theorem ofPath?_ending (stem : List Char) (d : Dialect) :
    Dialect.ofPath? (String.ofList (stem ++ ending d)) = some d := by
  rw [Dialect.ofPath?, extension?_ending]
  cases d <;> rfl

theorem isModule_ending (stem : List Char) (d : Dialect) :
    isModule (String.ofList (stem ++ ending d)) = true := by
  rw [isModule, List.any_eq_true]
  refine ⟨d, by cases d <;> decide, ?_⟩
  rw [String.toList_ofList, List.isSuffixOf_iff_suffix]
  exact List.suffix_append stem _

theorem exists_of_isModule {path : String} (h : isModule path = true) :
    ∃ d stem, path = String.ofList (stem ++ ending d) := by
  obtain ⟨d, -, hd⟩ := List.any_eq_true.1 h
  obtain ⟨stem, hstem⟩ := List.isSuffixOf_iff_suffix.1 hd
  exact ⟨d, stem, by rw [hstem, String.ofList_toList]⟩

theorem exists_ofPath? {path : String} (h : isModule path = true) :
    ∃ d, Dialect.ofPath? path = some d := by
  obtain ⟨d, stem, rfl⟩ := exists_of_isModule h
  exact ⟨d, ofPath?_ending stem d⟩

theorem append_extension_eq (x : String) (d : Dialect) :
    x ++ ".module." ++ d.extension = String.ofList (x.toList ++ ending d) := by
  have happend (a b c : String) :
      a ++ b ++ c = String.ofList (a.toList ++ (b.toList ++ c.toList)) := by
    simp only [String.ofList_append, String.ofList_toList, String.append_assoc]
  exact happend x ".module." d.extension

theorem exists_stem_iff {path : String} {d : Dialect} :
    (∃ stem, path = String.ofList (stem ++ ending d)) ↔
      ∃ x : String, behindLastSlash path = x ++ ".module." ++ d.extension := by
  simp only [append_extension_eq]
  constructor
  · rintro ⟨stem, rfl⟩
    refine ⟨String.ofList (stem.rtakeWhile (· != '/')), ?_⟩
    rw [behindLastSlash_append (no_slash_ending d), String.toList_ofList]
  · rintro ⟨x, hx⟩
    obtain ⟨front, hfront⟩ := List.rtakeWhile_suffix (· != '/') path.toList
    have hlast := congrArg String.toList hx
    rw [behindLastSlash, String.toList_ofList, String.toList_ofList] at hlast
    refine ⟨front ++ x.toList, String.toList_inj.1 ?_⟩
    rw [String.toList_ofList, List.append_assoc, ← hlast, hfront]

theorem isModule_iff_exists_stem {path : String} :
    isModule path = true ↔ ∃ d stem, path = String.ofList (stem ++ ending d) := by
  constructor
  · exact exists_of_isModule
  · rintro ⟨d, stem, rfl⟩
    exact isModule_ending stem d

theorem isModule_iff_exists_append {path : String} :
    isModule path = true ↔ ∃ (stem : String) (d : Dialect),
      path = stem ++ ".module." ++ d.extension := by
  rw [isModule_iff_exists_stem]
  constructor
  · rintro ⟨d, stem, rfl⟩
    exact ⟨String.ofList stem, d, by rw [append_extension_eq, String.toList_ofList]⟩
  · rintro ⟨stem, d, rfl⟩
    exact ⟨d, stem.toList, append_extension_eq stem d⟩

end Module
end StyleTypings
