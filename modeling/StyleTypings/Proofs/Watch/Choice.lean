import Mathlib
import StyleTypings.Proofs.Path.Above
import StyleTypings.Proofs.Text.Encoding
import StyleTypings.Watch

namespace StyleTypings

theorem Exclusion.coversAncestor_iff_exists_above {e : Exclusion} {path root : String} :
    e.coversAncestor path root = true ↔
      ∃ dir, Path.Above dir path ∧ Path.components root <+: Path.components dir ∧
        e.excludes dir = true := by
  rw [coversAncestor_iff_exists]
  simp only [Path.mem_ancestors_iff, Path.startsWith, List.isPrefixOf_iff_prefix]

theorem Exclusion.coversAncestor_congr {e e' : Exclusion} {root : String}
    (h : ∀ dir, Path.components root <+: Path.components dir → e'.excludes dir = e.excludes dir)
    (path : String) : e'.coversAncestor path root = e.coversAncestor path root := by
  rw [Bool.eq_iff_iff, coversAncestor_iff_exists_above, coversAncestor_iff_exists_above]
  refine exists_congr fun dir ↦ and_congr_right fun _ ↦ and_congr_right fun hroot ↦ ?_
  rw [h dir hroot]

namespace Watch

open Text (Bytes encode)

variable {paths : List Bytes} {root : String} {e : Exclusion}

/-- The path at a place of an event is the text of a module stylesheet that is in no excluded
directory at or below the root. -/
structure Eligible (paths : List Bytes) (root : String) (e : Exclusion) (i : Nat) (text : String) :
    Prop where
  text_eq : paths[i]? = some (encode text)
  ending : ∃ (stem : String) (d : Dialect), text = stem ++ ".module." ++ d.extension
  admitted : ∀ dir, Path.Above dir text → Path.components root <+: Path.components dir →
    e.excludes dir = false

theorem concerns_iff {text : String} :
    concerns e root text = true ↔
      (∃ (stem : String) (d : Dialect), text = stem ++ ".module." ++ d.extension) ∧
        ∀ dir, Path.Above dir text → Path.components root <+: Path.components dir →
          e.excludes dir = false := by
  rw [concerns, Bool.and_eq_true, Module.isModule_iff_exists_append, Bool.not_eq_true',
    Bool.eq_false_iff, ne_eq, Exclusion.coversAncestor_iff_exists_above]
  simp only [not_exists, not_and, Bool.not_eq_true]

structure First (seen : List String) (names : List (Option String)) (i : Nat) (text : String) :
    Prop where
  at_place : names[i]? = some (some text)
  unseen : ∀ other ∈ seen, Path.components other ≠ Path.components text
  none_before : ∀ j < i, ∀ other, names[j]? = some (some other) →
    Path.components other ≠ Path.components text

variable {seen : List String} {names : List (Option String)} {i : Nat} {text p : String}

theorem first_none_succ : First seen (none :: names) (i + 1) text ↔ First seen names i text := by
  constructor
  · intro h
    exact ⟨h.at_place, h.unseen, fun j hj ↦ h.none_before (j + 1) (by omega)⟩
  · intro h
    refine ⟨h.at_place, h.unseen, fun j hj other hother ↦ ?_⟩
    cases j with
    | zero => cases hother
    | succ j => exact h.none_before j (by omega) other hother

theorem first_some_succ :
    First seen (some p :: names) (i + 1) text ↔ First (p :: seen) names i text := by
  constructor
  · intro h
    exact ⟨h.at_place, List.forall_mem_cons.2 ⟨h.none_before 0 (by omega) p rfl, h.unseen⟩,
      fun j hj ↦ h.none_before (j + 1) (by omega)⟩
  · intro h
    obtain ⟨hp, hunseen⟩ := List.forall_mem_cons.1 h.unseen
    refine ⟨h.at_place, hunseen, fun j hj other hother ↦ ?_⟩
    cases j with
    | zero =>
      cases hother
      exact hp
    | succ j => exact h.none_before j (by omega) other hother

theorem first_some_zero : First seen (some p :: names) 0 text ↔
    p = text ∧ ∀ other ∈ seen, Path.components other ≠ Path.components p := by
  constructor
  · intro h
    obtain rfl : p = text := by simpa using h.at_place
    exact ⟨rfl, h.unseen⟩
  · rintro ⟨rfl, hunseen⟩
    exact ⟨rfl, hunseen, fun j hj ↦ absurd hj (Nat.not_lt_zero j)⟩

theorem first_cons_iff_of_seen (h : ∃ other ∈ seen, Path.components other = Path.components p) :
    First (p :: seen) names i text ↔ First seen names i text := by
  obtain ⟨other, hother, heq⟩ := h
  constructor
  · exact fun h ↦ ⟨h.at_place, (List.forall_mem_cons.1 h.unseen).2, h.none_before⟩
  · intro h
    exact ⟨h.at_place, List.forall_mem_cons.2 ⟨heq ▸ h.unseen other hother, h.unseen⟩,
      h.none_before⟩

theorem not_first_none : ¬First seen (none :: names) 0 text := fun h ↦ by
  cases h.at_place

def later (found : List (Nat × String)) : List (Nat × String) := found.map fun f ↦ (f.1 + 1, f.2)

variable {found : List (Nat × String)}

theorem map_later (found : List (Nat × String)) : (later found).map (·.2) = found.map (·.2) := by
  rw [later, List.map_map]
  rfl

theorem pairwise_later (h : found.Pairwise (·.1 < ·.1)) : (later found).Pairwise (·.1 < ·.1) :=
  List.pairwise_map.2 (h.imp Nat.succ_lt_succ)

theorem succ_mem_later : (i + 1, text) ∈ later found ↔ (i, text) ∈ found := by
  simp [later]

theorem zero_not_mem_later : (0, text) ∉ later found := by
  simp [later]

theorem mem_later_iff {name : Option String}
    (hmem : ∀ i text, (i, text) ∈ found ↔ First seen names i text)
    (hzero : ∀ text, ¬First seen (name :: names) 0 text)
    (hsucc : ∀ i text, First seen (name :: names) (i + 1) text ↔ First seen names i text) :
    (i, text) ∈ later found ↔ First seen (name :: names) i text := by
  cases i with
  | zero => exact iff_of_false zero_not_mem_later (hzero text)
  | succ i => rw [succ_mem_later, hmem, hsucc]

theorem exists_firsts (seen : List String) (names : List (Option String)) :
    ∃ found : List (Nat × String), distinctPaths seen (names.filterMap id) = found.map (·.2) ∧
      found.Pairwise (·.1 < ·.1) ∧ ∀ i text, (i, text) ∈ found ↔ First seen names i text := by
  induction names generalizing seen with
  | nil => exact ⟨[], rfl, .nil, fun i text ↦ ⟨fun h ↦ absurd h List.not_mem_nil,
      fun h ↦ by cases h.at_place⟩⟩
  | cons name names ih =>
    cases name with
    | none =>
      obtain ⟨found, heq, hsorted, hmem⟩ := ih seen
      exact ⟨later found, heq.trans (map_later found).symm, pairwise_later hsorted, fun _ _ ↦
        mem_later_iff hmem (fun _ ↦ not_first_none) fun _ _ ↦ first_none_succ⟩
    | some p =>
      have hcons : (some p :: names).filterMap id = p :: names.filterMap id := rfl
      rw [hcons, distinctPaths]
      by_cases hseen : ∃ other ∈ seen, Path.components other = Path.components p
      · rw [if_pos (by simpa [Path.same] using hseen)]
        obtain ⟨found, heq, hsorted, hmem⟩ := ih seen
        have hzero : ∀ text, ¬First seen (some p :: names) 0 text := by
          intro text h
          obtain ⟨other, hother, hsame⟩ := hseen
          exact (first_some_zero.1 h).2 other hother hsame
        exact ⟨later found, heq.trans (map_later found).symm, pairwise_later hsorted, fun _ _ ↦
          mem_later_iff hmem hzero fun _ _ ↦ first_some_succ.trans (first_cons_iff_of_seen hseen)⟩
      · rw [if_neg (by simpa [Path.same] using hseen)]
        obtain ⟨found, heq, hsorted, hmem⟩ := ih (p :: seen)
        refine ⟨(0, p) :: later found, ?_, List.pairwise_cons.2 ⟨fun f hf ↦ ?_,
          pairwise_later hsorted⟩, fun i text ↦ ?_⟩
        · rw [List.map_cons, map_later, heq]
        · obtain ⟨f, -, rfl⟩ := List.mem_map.1 hf
          exact Nat.succ_pos _
        · cases i with
          | zero =>
            rw [List.mem_cons, or_iff_left zero_not_mem_later, first_some_zero, Prod.mk.injEq]
            refine ⟨fun h ↦ ⟨h.2.symm, fun other hother hsame ↦ hseen ⟨other, hother, hsame⟩⟩,
              fun h ↦ ⟨rfl, h.1.symm⟩⟩
          | succ i =>
            rw [List.mem_cons, succ_mem_later, hmem, first_some_succ]
            simp

/-- The paths of an event, without those that are not to be generated anew. -/
def candidates (paths : List Bytes) (root : String) (e : Exclusion) : List (Option String) :=
  paths.map fun path ↦ (Text.decode? path).filter (concerns e root)

theorem eligible_iff : Eligible paths root e i text ↔
    (candidates paths root e)[i]? = some (some text) := by
  rw [candidates, List.getElem?_map, Option.map_eq_some_iff]
  simp only [Option.filter_eq_some_iff, Text.decode?_eq_some_iff, concerns_iff]
  constructor
  · exact fun h ↦ ⟨_, h.text_eq, rfl, h.ending, h.admitted⟩
  · rintro ⟨path, hpath, rfl, hending, hadmitted⟩
    exact ⟨hpath, hending, hadmitted⟩

theorem changedStylesheets_eq_distinctPaths (paths : List Bytes) (root : String) (e : Exclusion) :
    changedStylesheets paths root e =
      distinctPaths [] ((candidates paths root e).filterMap id) := by
  rw [changedStylesheets, candidates, List.filterMap_map, List.filter_filterMap]
  rfl

theorem first_candidates_iff : First [] (candidates paths root e) i text ↔
    Eligible paths root e i text ∧ ∀ j < i, ∀ other, Eligible paths root e j other →
      Path.components other ≠ Path.components text := by
  simp only [eligible_iff]
  constructor
  · exact fun h ↦ ⟨h.at_place, h.none_before⟩
  · exact fun h ↦ ⟨h.1, fun other hother ↦ absurd hother List.not_mem_nil, h.2⟩

theorem changedStylesheets_congr {e' : Exclusion}
    (h : ∀ dir, Path.components root <+: Path.components dir → e'.excludes dir = e.excludes dir)
    (paths : List Bytes) : changedStylesheets paths root e' = changedStylesheets paths root e := by
  have hconcerns : concerns e' root = concerns e root := by
    funext path
    rw [concerns, concerns, Exclusion.coversAncestor_congr h]
  rw [changedStylesheets, changedStylesheets, hconcerns]

/-- What an event asks for are its paths, in their order and in the spelling that comes first, that
are text, end as module stylesheets do and lie in no excluded directory at or below the root. The
directories that a path lies in are tried upwards as far as the root: none of those is left out, no
other one makes a difference, and one whose name only begins like that of the root is no such
directory. -/
theorem changedStylesheets_exact (paths : List Bytes) (root : String) (e : Exclusion) :
    (∃ found : List (Nat × String), changedStylesheets paths root e = found.map (·.2) ∧
      found.Pairwise (·.1 < ·.1) ∧
      ∀ i text, (i, text) ∈ found ↔ Eligible paths root e i text ∧
        ∀ j < i, ∀ other, Eligible paths root e j other →
          Path.components other ≠ Path.components text) ∧
    (∀ path, e.coversAncestor path root = true ↔ ∃ dir, Path.Above dir path ∧
      Path.components root <+: Path.components dir ∧ e.excludes dir = true) ∧
    (∀ e' : Exclusion, (∀ dir, Path.components root <+: Path.components dir →
        e'.excludes dir = e.excludes dir) →
      changedStylesheets paths root e' = changedStylesheets paths root e) ∧
    (Path.behindLastSlash root ≠ "" → Path.behindLastSlash root ≠ "." → ∀ c more, c ≠ '/' →
      ¬Path.components root <+: Path.components (root ++ String.ofList (c :: more))) := by
  refine ⟨?_, fun path ↦ Exclusion.coversAncestor_iff_exists_above,
    fun e' h ↦ changedStylesheets_congr h paths, fun hempty hdot c more hc hpre ↦ ?_⟩
  · obtain ⟨found, heq, hsorted, hmem⟩ := exists_firsts [] (candidates paths root e)
    exact ⟨found, (changedStylesheets_eq_distinctPaths paths root e).trans heq, hsorted,
      fun i text ↦ (hmem i text).trans first_candidates_iff⟩
  · have houtside := Path.startsWith_append_eq_false hempty hdot hc more
    rw [Path.startsWith, List.isPrefixOf_iff_prefix.2 hpre] at houtside
    cases houtside

def mixedPaths : List Bytes :=
  [encode "/project/src/a.module.css", encode "/project//src/./a.module.css", [255],
    encode "/project/src-legacy/b.module.css", encode "/project/src/old/c.module.css"]

def skippingOld : Exclusion := some (· == "/project/src/old")

def skippingAround : Exclusion :=
  some fun dir ↦ dir == "/project" || dir == "/project/src-legacy" || dir == "/project/src/old"

theorem changedStylesheets_mixedPaths :
    changedStylesheets mixedPaths "/project/src" skippingOld =
      ["/project/src/a.module.css", "/project/src-legacy/b.module.css"] := by
  have hdecode (text : String) : Text.decode? (encode text) = some text :=
    Text.decode?_eq_some_iff.2 rfl
  have hnone : Text.decode? [255] = none := by cbv
  simp only [changedStylesheets, mixedPaths, List.filterMap_cons, List.filterMap_nil, hdecode,
    hnone]
  decide +kernel

/-- What is excluded above the root or beside it makes no difference. -/
theorem changedStylesheets_exact_around :
    changedStylesheets mixedPaths "/project/src" skippingAround =
      ["/project/src/a.module.css", "/project/src-legacy/b.module.css"] ∧
    ¬Path.components "/project/src" <+: Path.components "/project/src-legacy" ∧
    ∃ i, Eligible mixedPaths "/project/src" skippingAround i
      "/project/src-legacy/b.module.css" := by
  have hlonger :
      "/project/src-legacy" = "/project/src" ++ String.ofList ('-' :: "legacy".toList) := by
    decide +kernel
  have hbeside : ¬Path.components "/project/src" <+: Path.components "/project/src-legacy" :=
    hlonger ▸ (changedStylesheets_exact mixedPaths "/project/src" skippingOld).2.2.2
      (by decide +kernel) (by decide +kernel) '-' "legacy".toList (by decide)
  have heq : changedStylesheets mixedPaths "/project/src" skippingAround =
      ["/project/src/a.module.css", "/project/src-legacy/b.module.css"] := by
    rw [← changedStylesheets_mixedPaths]
    refine (changedStylesheets_exact mixedPaths "/project/src" skippingOld).2.2.1 skippingAround
      fun dir hdir ↦ ?_
    have habove : dir ≠ "/project" := by
      rintro rfl
      exact absurd hdir (by decide +kernel)
    have hne : dir ≠ "/project/src-legacy" := by
      rintro rfl
      exact hbeside hdir
    simp [skippingAround, skippingOld, Exclusion.excludes, habove, hne]
  obtain ⟨⟨found, hfound, -, hmem⟩, -⟩ :=
    changedStylesheets_exact mixedPaths "/project/src" skippingAround
  obtain ⟨⟨i, text⟩, hi, rfl⟩ : ∃ f ∈ found, f.2 = "/project/src-legacy/b.module.css" := by
    rw [← List.mem_map, ← hfound, heq]
    simp
  exact ⟨heq, hbeside, i, ((hmem i _).1 hi).1⟩

end Watch
end StyleTypings
