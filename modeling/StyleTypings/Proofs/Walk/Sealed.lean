import StyleTypings.Proofs.Walk.Errand
import StyleTypings.Proofs.Watch.Links
import StyleTypings.Proofs.World.Twins

namespace StyleTypings.Walk

open Disk (Location Name Node Grows Clear)
open Text (Bytes encode)
open World (Blind Twin run_bind run_get blind_pure blind_say)

/-- A place strictly inside an excluded directory at or below a root. -/
def Inside (e : Exclusion) (root : Bytes) (top l : Location) : Prop :=
  ∃ below, l = top ++ below ∧ ¬Kept e root below

def Touched (text : String) : Prop :=
  Module.isModule text = true ∨
    ∃ sheet, Module.isModule sheet = true ∧ text = Module.typingsPath sheet

/-- No link leads a walk into an excluded directory: neither do those on the way to the root, nor
does one that takes the place of a stylesheet or of its typings. -/
structure Sealed (e : Exclusion) (d : Disk) (root : Bytes) (top : Location) : Prop where
  rooted : d.Clear (Inside e root top) root
  links (l : Location) (target : Bytes) (text : String) :
    d.top.at? (top ++ l) = some (.link target) → Kept e root l →
      Text.decode? (pathBelow root l) = some text → Touched text →
        d.Clear (Inside e root top) (encode text)

variable {t : Toolchain} {e : Exclusion} {d : Disk} {root : Bytes} {top : Location} {n : Node}
  {l above : Location} {x : Name}

theorem not_inside (h : Kept e root l) : ¬Inside e root top (top ++ l) := by
  rintro ⟨below, heq, hnot⟩
  exact hnot (List.append_cancel_left heq ▸ h)

theorem Kept.of_entry (h : Kept e root (above ++ [x])) : Kept e root above := by
  intro a hp hne
  refine h a (hp.trans (List.prefix_append ..)) fun heq ↦ ?_
  have := (heq ▸ hp).length_le
  simp at this

theorem Kept.beside (h : Kept e root (above ++ [x])) (y : Name) : Kept e root (above ++ [y]) := by
  intro a hp hne
  rcases List.prefix_concat_iff.1 hp with heq | hp
  · exact absurd heq hne
  · refine h a (hp.trans (List.prefix_append ..)) fun heq ↦ ?_
    have := (heq ▸ hp).length_le
    simp at this

theorem clear_join (hopen : Opened d root top above)
    (habove : d.Clear (Inside e root top) (pathBelow root above)) (hx : Disk.Plain x)
    (hkept : Kept e root (above ++ [x]))
    (hlink : ∀ target, d.top.at? (top ++ (above ++ [x])) ≠ some (.link target)) :
    d.Clear (Inside e root top) (pathBelow root (above ++ [x])) := by
  obtain ⟨es, hopen⟩ := hopen
  have hat := (Disk.lookup_eq_ok_iff.1 hopen).2.at?_eq
  obtain ⟨left, hleft⟩ := Disk.exists_mem_way_join hopen hx
  intro l hl
  rw [pathBelow_append_name] at hl
  rcases hleft l hl with hl | hl
  · exact habove l hl
  · have hentry : ∀ target, es.lookup x ≠ some (.link target) := by
      intro target htarget
      rw [← List.append_assoc, Node.at?_append_name hat] at hlink
      exact hlink target htarget
    rcases Disk.mem_route_entry hat hx hentry hl with rfl | rfl
    · exact not_inside hkept.of_entry
    · rw [List.append_assoc]
      exact not_inside hkept

theorem Sealed.clear_opened (hs : Sealed e d root top) (g : Ground d root top n)
    (hopen : Opened d root top l) (hkept : Kept e root l) :
    d.Clear (Inside e root top) (pathBelow root l) := by
  induction l using List.reverseRecOn with
  | nil => exact hs.rooted
  | append_singleton above x ih =>
    obtain ⟨es, hl⟩ := hopen
    have hat := (Disk.lookup_eq_ok_iff.1 hl).2.at?_eq
    rw [← List.append_assoc] at hat
    obtain ⟨fs, hfs⟩ := Node.exists_dir_of_at?_append hat (by simp)
    have hx : Disk.Plain x := by
      rw [Node.at?_append_name hfs] at hat
      exact (g.wellFormed _ fs hfs).2 x (Node.mem_names_iff.2 ⟨_, hat⟩)
    rw [g.at?_append] at hfs
    have habove : Opened d root top above := ⟨fs, g.lookup_above hfs hx hl⟩
    refine clear_join habove (ih habove hkept.of_entry) hx hkept fun target htarget ↦ ?_
    rw [← List.append_assoc, hat] at htarget
    cases htarget

theorem Sealed.clear_touched (hs : Sealed e d root top) (g : Ground d root top n)
    (hopen : Opened d root top above) (hx : Disk.Plain x) (hkept : Kept e root (above ++ [x]))
    {text : String} (htext : Text.decode? (pathBelow root (above ++ [x])) = some text)
    (htouched : Touched text) : d.Clear (Inside e root top) (encode text) := by
  by_cases hlink : ∃ target, d.top.at? (top ++ (above ++ [x])) = some (.link target)
  · obtain ⟨target, hlink⟩ := hlink
    exact hs.links _ target text hlink hkept htext htouched
  · rw [Text.decode?_eq_some_iff.1 htext]
    exact clear_join hopen (hs.clear_opened g hopen hkept.of_entry) hx hkept
      fun target htarget ↦ hlink ⟨target, htarget⟩

theorem Sealed.clear_typings (hs : Sealed e d root top) (g : Ground d root top n)
    (hopen : Opened d root top above) (hx : Disk.Plain x) (hkept : Kept e root (above ++ [x]))
    {text : String} (hsheet : stylesheet? (pathBelow root (above ++ [x])) = some text) :
    d.Clear (Inside e root top) (encode (Module.typingsPath text)) := by
  obtain ⟨htext, hmodule⟩ := stylesheet?_eq_some_iff.1 hsheet
  have hpath : encode (Module.typingsPath text) = pathBelow root (above ++ [x ++ ending]) := by
    rw [encode_typingsPath htext, pathBelow_append_name, join_append _ hx, pathBelow_append_name]
  exact hs.clear_touched g hopen (plain_append_ending hx) (hkept.beside _)
    (Text.decode?_eq_some_iff.2 hpath) (.inr ⟨text, hmodule, rfl⟩)

theorem Sealed.clear_dir (hs : Sealed e d root top) (g : Ground d root top n)
    (hl : Errand.Reached d root top l) (hkept : Kept e root l) {es : List (Name × Node)}
    (hd : d.top.at? (top ++ l) = some (.dir es)) :
    d.Clear (Inside e root top) (pathBelow root l) := by
  cases hl with
  | root => exact hs.rooted
  | entry hopen hx =>
    refine clear_join hopen (hs.clear_opened g hopen hkept.of_entry) hx hkept fun target hlink ↦ ?_
    rw [hd] at hlink
    cases hlink

theorem sealed_of_no_links (hat : d.top.at? top = some n) (hn : Watch.NoLinks n)
    (hrooted : d.Clear (Inside e root top) root) : Sealed e d root top where
  rooted := hrooted
  links l target _ hlink := by
    rw [Node.at?_append, hat] at hlink
    exact absurd hlink (hn l target)

end StyleTypings.Walk
