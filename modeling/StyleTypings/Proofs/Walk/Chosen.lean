import Mathlib
import StyleTypings.Proofs.Disk.Below
import StyleTypings.Proofs.Text.Encoding
import StyleTypings.Walk

namespace StyleTypings

theorem Module.ending_eq (d : Dialect) : ∃ front, Module.ending d = front ++ "ss".toList := by
  cases d with
  | css => exact ⟨".module.c".toList, by decide⟩
  | scss => exact ⟨".module.sc".toList, by decide⟩
  | sass => exact ⟨".module.sa".toList, by decide⟩

theorem Module.isModule_eq_false_of_typings {bytes : Text.Bytes} {text : String}
    (h : Text.decode? (bytes ++ Text.encode Module.typingsEnding) = some text) :
    Module.isModule text = false := by
  refine Bool.eq_false_iff.2 fun hm ↦ ?_
  obtain ⟨d, -, hd⟩ := List.any_eq_true.1 hm
  obtain ⟨front, hfront⟩ := List.isSuffixOf_iff_suffix.1 hd
  obtain ⟨middle, hmiddle⟩ := Module.ending_eq d
  have htext : text = String.ofList (front ++ middle) ++ "ss" := by
    rw [← String.toList_inj, String.toList_append, String.toList_ofList, List.append_assoc,
      ← hmiddle, hfront]
  have hbytes := Text.decode?_eq_some_iff.1 h
  have hs : Text.encode "ss" = [115, 115] := by cbv
  have hts : Text.encode typingsEnding = [46, 100, 46] ++ [116, 115] := by cbv
  rw [htext, Text.encode_append, hs, hts, ← List.append_assoc] at hbytes
  have := (List.append_inj' hbytes rfl).2
  exact absurd this (by decide)

namespace Walk

open Disk (Location Node)
open Text (Bytes)

variable {e : Exclusion} {root : Bytes} {n : Node} {l : Location}

def pathBelow (root : Bytes) (l : Location) : Bytes := l.foldl Disk.join root

theorem pathBelow_append_name (root : Bytes) (l : Location) (name : Disk.Name) :
    pathBelow root (l ++ [name]) = Disk.join (pathBelow root l) name := by
  simp [pathBelow]

theorem pathBelow_ne_nil (hr : root ≠ []) (hl : ∀ x ∈ l, Disk.Plain x) :
    pathBelow root l ≠ [] := by
  induction l using List.reverseRecOn with
  | nil => exact hr
  | append_singleton l x ih =>
    rw [pathBelow_append_name]
    exact Disk.join_ne_nil (ih fun y hy ↦ hl y (by simp [hy])) (hl x (by simp))

def Kept (e : Exclusion) (root : Bytes) (l : Location) : Prop :=
  ∀ above, above <+: l → above ≠ l → e.excludes (Text.lossy (pathBelow root above)) = false

structure Chosen (e : Exclusion) (root : Bytes) (n : Node) (l : Location) (text : String) :
    Prop where
  entry : ∃ m, n.at? l = some m ∧ m.kind ≠ .dir
  text_eq : Text.decode? (pathBelow root l) = some text
  isModule : Module.isModule text = true
  kept : Kept e root l

/-- A directory that is excluded and lies in no other such directory. -/
structure Pruned (e : Exclusion) (root : Bytes) (n : Node) (l : Location) : Prop where
  dir : ∃ es, n.at? l = some (.dir es)
  excluded : e.excludes (Text.lossy (pathBelow root l)) = true
  kept : Kept e root l

/-- The stylesheets and the excluded directories of a part of a tree, in the order of their
locations. -/
structure Lists (e : Exclusion) (root : Bytes) (n : Node) (part : Location → Prop)
    (found : List (Location × String)) (pruned : List Location) : Prop where
  found_sorted : found.Pairwise (·.1 < ·.1)
  mem_found (l : Location) (text : String) : (l, text) ∈ found ↔ part l ∧ Chosen e root n l text
  pruned_sorted : pruned.Pairwise (· < ·)
  mem_pruned (l : Location) : l ∈ pruned ↔ part l ∧ Pruned e root n l

theorem kept_nil (e : Exclusion) (root : Bytes) : Kept e root [] :=
  fun _ hp hne ↦ absurd (List.prefix_nil.1 hp) hne

theorem Kept.append_name (h : Kept e root l)
    (hl : e.excludes (Text.lossy (pathBelow root l)) = false) (name : Disk.Name) :
    Kept e root (l ++ [name]) := by
  intro above hp hne
  rcases List.prefix_concat_iff.1 hp with he | hp
  · exact absurd he hne
  · by_cases he : above = l
    · exact he ▸ hl
    · exact h above hp he

theorem Lists.congr {part part' : Location → Prop} {found : List (Location × String)}
    {pruned : List Location} (h : Lists e root n part found pruned)
    (hfound : ∀ l text, Chosen e root n l text → (part l ↔ part' l))
    (hpruned : ∀ l, Pruned e root n l → (part l ↔ part' l)) :
    Lists e root n part' found pruned where
  found_sorted := h.found_sorted
  mem_found l text := by
    rw [h.mem_found]
    exact and_congr_left (hfound l text)
  pruned_sorted := h.pruned_sorted
  mem_pruned l := by
    rw [h.mem_pruned]
    exact and_congr_left (hpruned l)

theorem Lists.nil : Lists e root n (fun _ ↦ False) [] [] := by
  constructor <;> simp

theorem Lists.append {first second : Location → Prop} {found found' : List (Location × String)}
    {pruned pruned' : List Location} (h : Lists e root n first found pruned)
    (h' : Lists e root n second found' pruned')
    (hlt : ∀ l l', first l → second l' → l < l') :
    Lists e root n (fun l ↦ first l ∨ second l) (found ++ found') (pruned ++ pruned') where
  found_sorted := by
    refine List.pairwise_append.2 ⟨h.found_sorted, h'.found_sorted, fun a ha b hb ↦ ?_⟩
    exact hlt _ _ ((h.mem_found _ _).1 ha).1 ((h'.mem_found _ _).1 hb).1
  mem_found l text := by
    rw [List.mem_append, h.mem_found, h'.mem_found, or_and_right]
  pruned_sorted := by
    refine List.pairwise_append.2 ⟨h.pruned_sorted, h'.pruned_sorted, fun a ha b hb ↦ ?_⟩
    exact hlt _ _ ((h.mem_pruned _).1 ha).1 ((h'.mem_pruned _).1 hb).1
  mem_pruned l := by
    rw [List.mem_append, h.mem_pruned, h'.mem_pruned, or_and_right]

/-- What lies below an earlier name comes in front of what lies below a later one. -/
theorem lt_of_name_lt {a b : Disk.Name} (hab : a < b) (l : Location) {x y : Location}
    (hx : l ++ [a] <+: x) (hy : l ++ [b] <+: y) : x < y := by
  obtain ⟨x, rfl⟩ := hx
  obtain ⟨y, rfl⟩ := hy
  induction l with
  | nil => exact List.cons_lt_cons_iff.2 (.inl hab)
  | cons c l ih => exact List.cons_lt_cons_iff.2 (.inr ⟨rfl, ih⟩)

theorem lt_of_entry {entry : Disk.Name × Disk.Kind} {entries : List (Disk.Name × Disk.Kind)}
    (hlt : ∀ other ∈ entries, entry.1 < other.1) (l x y : Location) (hx : l ++ [entry.1] <+: x)
    (hy : ∃ other ∈ entries, l ++ [other.1] <+: y) : x < y := by
  obtain ⟨other, hother, hy⟩ := hy
  exact lt_of_name_lt (hlt other hother) l hx hy

theorem lt_of_prefix_ne {l l' : Location} (hp : l <+: l') (hne : l' ≠ l) : l < l' := by
  obtain ⟨rest, rfl⟩ := hp
  have hrest : rest ≠ [] := fun h ↦ hne (by rw [h, List.append_nil])
  obtain ⟨name, rest, rfl⟩ := List.exists_cons_of_ne_nil hrest
  clear hne hrest
  induction l with
  | nil => exact List.nil_lt_cons ..
  | cons c l ih => exact List.cons_lt_cons_iff.2 (.inr ⟨rfl, ih⟩)

end Walk
end StyleTypings
