import StyleTypings.Proofs.Walk.Frozen
import StyleTypings.Proofs.Watch.Links

namespace StyleTypings.Walk

open Disk (Location Name Node)
open Text (Bytes encode)
open Watch (NoLinks)

structure Requested (d : Disk) (root : Bytes) (top : Location) (r : WriteRequest) : Prop where
  admits : Admits d root top r
  retypes : Retypes r

/-- A disk on which typings have been written below a root, and no stylesheet there. -/
structure Intact (d : Disk) (root : Bytes) (top : Location) (n : Node) (d' : Disk) : Prop where
  keeps : Keeps d d'
  retyped : Retyped d d'
  sheet (l : Location) (m : Node) (text : String) : n.at? l = some m → m.kind ≠ .dir →
    stylesheet? (pathBelow root l) = some text → d'.top.at? (top ++ l) = some m

variable {d d' : Disk} {root : Bytes} {top : Location} {n : Node}

section Ground

variable (g : Ground d root top n) (hn : NoLinks n)
include g

theorem intact_refl : Intact d root top n d where
  keeps := ⟨g.wellFormed, .refl _ _⟩
  retyped := .refl
  sheet l m text hm _ _ := by rw [g.at?_append, hm]

theorem Opened.at?_eq {l : Location} (h : Opened d root top l) :
    ∃ es, n.at? l = some (.dir es) := by
  obtain ⟨es, hl⟩ := h
  exact ⟨es, by rw [← g.at?_append, (Disk.lookup_eq_ok_iff.1 hl).2.at?_eq]⟩

include hn

theorem Admits.exists_spot {r : WriteRequest} (h : Admits d root top r) :
    ∃ above x, Disk.Plain x ∧
      ∀ spot, d.spot? (encode r.target) = some spot → spot = top ++ above ++ [x ++ ending] := by
  obtain ⟨above, x, text, hopen, hx, -, htext, htarget, -⟩ := h
  obtain ⟨es, hd⟩ := hopen.at?_eq g
  refine ⟨above, x, hx, fun spot hspot ↦ ?_⟩
  rw [htarget, encode_typingsPath htext, pathBelow_append_name, join_append _ hx,
    ← pathBelow_append_name] at hspot
  exact Watch.spot_eq_of_no_links g hn hd (plain_append_ending hx) hspot

theorem intact_outlasts :
    World.Outlasts (Intact d root top n) (Requested d root top) := by
  intro d₁ r d₂ h hr hw
  refine ⟨keeps_outlasts d root top _ _ _ h.keeps hr.admits hw,
    retyped_outlasts d _ _ _ h.retyped hr.retypes hw, fun l m text hm hk hsheet ↦ ?_⟩
  obtain ⟨spot, executable, hwrote⟩ := Disk.exists_wrote hw
  obtain ⟨above, x, hx, hwhere⟩ := hr.admits.exists_spot g hn
  have hat := h.sheet l m text hm hk hsheet
  -- What is written has the ending of typings, which no stylesheet has.
  have hne : top ++ l ≠ spot := by
    rintro rfl
    have hl := hwhere _ (Disk.spot?_eq_of_grows h.keeps.grows _ ▸ hwrote.spot?_eq)
    rw [List.append_assoc] at hl
    obtain rfl := List.append_cancel_left hl
    obtain ⟨hdecode, hmodule⟩ := stylesheet?_eq_some_iff.1 hsheet
    rw [isModule_eq_false_of_ending hx hdecode] at hmodule
    cases hmodule
  have hrel := hwrote.replaces.elsewhere _ hne
  rw [hat] at hrel
  generalize d₂.top.at? (top ++ l) = found at hrel
  cases hrel with
  | some ha => rw [ha.eq_of_not_dir hk]

theorem Keeps.lookup_cases (hk : Keeps d d') {l : Location} {m : Node} (hm : n.at? l = some m)
    (habove : ∀ above x, l = above ++ [x] → Opened d root top above) :
    (∃ fault, d.lookup (pathBelow root l) true = .error fault ∧
        d'.lookup (pathBelow root l) true = .error fault) ∨
      ∃ m', d.lookup (pathBelow root l) true = .ok (.found (top ++ l) m) ∧
        d'.lookup (pathBelow root l) true = .ok (.found (top ++ l) m') ∧
        d'.top.at? (top ++ l) = some m' := by
  rcases List.eq_nil_or_concat l with rfl | ⟨above, x, rfl⟩
  · obtain ⟨m', hl'⟩ := hk.grows.lookup_found g.rooted
    rw [Node.at?_nil] at hm
    cases hm
    rw [List.append_nil]
    exact .inr ⟨m', g.rooted, hl', (Disk.lookup_eq_ok_iff.1 hl').2.at?_eq⟩
  · rw [List.concat_eq_append] at *
    obtain ⟨es, hopen⟩ := habove above x rfl
    obtain ⟨fs, hfs⟩ := Node.exists_dir_of_at?_append hm (by simp)
    have hx := g.plain_of_mem hm x (by simp)
    obtain rfl : es = fs := by
      have hat := (Disk.lookup_eq_ok_iff.1 hopen).2.at?_eq
      rw [g.at?_append, hfs] at hat
      cases hat
      rfl
    have hlookup : es.lookup x = some m := by rw [← Node.at?_append_name hfs, hm]
    have hlink : ∀ target, es.lookup x ≠ some (.link target) := by
      rintro target h
      exact hn (above ++ [x]) target (by rw [Node.at?_append_name hfs, h])
    -- The directory and the entry are on the other disk too, and are of the same kinds.
    obtain ⟨m₁, hopen'⟩ := hk.grows.lookup_found hopen
    have hat := (Disk.lookup_eq_ok_iff.1 hopen).2.at?_eq
    have hat' := (Disk.lookup_eq_ok_iff.1 hopen').2.at?_eq
    have hgrew := hk.grows.top (top ++ above)
    obtain ⟨es', hes'⟩ := hgrew.dir_iff.1 ⟨es, hat⟩
    rw [hat'] at hes'
    cases hes'
    have hgrew' := hk.grows.top (top ++ above ++ [x])
    rw [Node.at?_append_name hat, Node.at?_append_name hat', hlookup] at hgrew'
    have hlink' : ∀ target, es'.lookup x ≠ some (.link target) := by
      intro target h
      exact hlink target (hlookup.trans ((hgrew'.link_iff target).2 h))
    rw [pathBelow_append_name, Disk.lookup_join_eq hopen hx hlink,
      Disk.lookup_join_eq hopen' hx hlink']
    cases Disk.obstacle? (pathBelow root above) x with
    | some fault => exact .inl ⟨fault, rfl, rfl⟩
    | none =>
      obtain ⟨m', hm'⟩ : ∃ m', es'.lookup x = some m' := by
        generalize es'.lookup x = after at hgrew'
        cases hgrew' with
        | some _ => exact ⟨_, rfl⟩
      refine .inr ⟨m', ?_, ?_, ?_⟩
      · rw [hlookup, Disk.entryAt, List.append_assoc]
      · rw [hm', Disk.entryAt, List.append_assoc]
      · rw [← List.append_assoc, Node.at?_append_name hat', hm']

theorem Intact.readText_eq (h : Intact d root top n d') {l : Location} {m : Node} {text : String}
    (hm : n.at? l = some m) (hk : m.kind ≠ .dir)
    (habove : ∀ above x, l = above ++ [x] → Opened d root top above)
    (hsheet : stylesheet? (pathBelow root l) = some text) :
    d'.readText (encode text) = d.readText (encode text) := by
  rw [Text.decode?_eq_some_iff.1 (stylesheet?_eq_some_iff.1 hsheet).1]
  refine Disk.readText_congr ?_ h.keeps.grows.barred_eq
  rcases h.keeps.lookup_cases g hn hm habove with ⟨fault, hl, hl'⟩ | ⟨m', hl, hl', hat⟩
  · rw [hl, hl']
  · rw [h.sheet l m text hm hk hsheet] at hat
    cases hat
    rw [hl, hl']

end Ground

end StyleTypings.Walk
