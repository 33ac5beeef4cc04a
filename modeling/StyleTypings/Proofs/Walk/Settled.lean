import StyleTypings.Proofs.Walk.Intact

namespace StyleTypings.Walk

open Disk (Location Name Node)
open Disk.Node (Alike)
open Text (Bytes encode)
open Watch (Functional NoLinks)

structure Calm (t : Toolchain) (d : Disk) (root : Bytes) (top : Location) (n : Node) : Prop
    extends Ground d root top n where
  directory : n.kind = .dir
  no_links : NoLinks n
  functional : Functional t
  sink : t.sink = .writer

def Asked (t : Toolchain) (e : Exclusion) (d : Disk) (root : Bytes) (top : Location) (n : Node)
    (r : WriteRequest) : Prop :=
  ∃ above x text g, Opened d root top above ∧ Chosen e root n (above ++ [x]) text ∧
    sheetGain t d text = .ok g ∧ g.request? = some r

/-- What may have become of a disk: only where such requests are written there is something new. -/
structure Settled (t : Toolchain) (e : Exclusion) (d : Disk) (root : Bytes) (top : Location)
    (n : Node) (d' : Disk) : Prop where
  keeps : Keeps d d'
  changed (location : Location) :
    ¬Option.Rel Alike (d.top.at? location) (d'.top.at? location) →
      ∃ r, Asked t e d root top n r ∧ d.spot? (encode r.target) = some location

section Calm

variable {t : Toolchain} {e : Exclusion} {d d' : Disk} {root : Bytes} {top : Location} {n : Node}
  (c : Calm t d root top n)
include c

theorem Asked.exists_spot {r : WriteRequest} (h : Asked t e d root top n r) :
    ∃ above x text g, Disk.Plain x ∧ Chosen e root n (above ++ [x]) text ∧
      sheetGain t d text = .ok g ∧ g.request? = some r ∧
      ¬Disk.Dangling d (encode r.target) ∧
      ∀ spot, d.spot? (encode r.target) = some spot → spot = top ++ above ++ [x ++ ending] := by
  obtain ⟨above, x, text, g, -, hc, hg, hr⟩ := h
  obtain ⟨above', x', es, hl, hx, hd, hpath⟩ := c.exists_entry c.directory hc
  obtain ⟨rfl, hname⟩ := List.append_inj' hl rfl
  obtain rfl := List.singleton_inj.1 hname
  have htarget : encode r.target = pathBelow root (above ++ [x ++ ending]) := by
    obtain ⟨content, names, -, -, rfl⟩ := sheetGain_eq_ok_iff.1 hg
    cases hr
    exact hpath
  refine ⟨above, x, text, g, hx, hc, hg, hr, ?_, fun spot hspot ↦ ?_⟩
  · rw [htarget]
    exact Watch.not_dangling_of_no_links c.toGround c.no_links hd (plain_append_ending hx)
  · rw [htarget] at hspot
    exact Watch.spot_eq_of_no_links c.toGround c.no_links hd (plain_append_ending hx) hspot

theorem Asked.eq_of_spot {r r' : WriteRequest} {spot : Location} (h : Asked t e d root top n r)
    (h' : Asked t e d root top n r') (hspot : d.spot? (encode r.target) = some spot)
    (hspot' : d.spot? (encode r'.target) = some spot) : r = r' := by
  obtain ⟨above, x, text, g, -, hc, hg, hr, -, hwhere⟩ := h.exists_spot c
  obtain ⟨above', x', text', g', -, hc', hg', hr', -, hwhere'⟩ := h'.exists_spot c
  obtain ⟨habove, hname⟩ := List.append_inj' ((hwhere _ hspot).symm.trans (hwhere' _ hspot')) rfl
  obtain rfl := List.append_cancel_left habove
  obtain rfl := List.append_cancel_right (List.singleton_inj.1 hname)
  obtain rfl := Option.some.inj (hc.text_eq.symm.trans hc'.text_eq)
  rw [hg] at hg'
  cases hg'
  exact Option.some.inj (hr.symm.trans hr')

theorem Asked.admits {r : WriteRequest} (h : Asked t e d root top n r) : Admits d root top r := by
  obtain ⟨-, -, -, -, -, -, -, -, hdangling, -⟩ := h.exists_spot c
  obtain ⟨above, x, text, g, hopen, hc, hg, hr⟩ := h
  obtain ⟨m, hm, -⟩ := hc.entry
  obtain ⟨content, names, -, -, rfl⟩ := sheetGain_eq_ok_iff.1 hg
  cases hr
  refine ⟨above, x, text, hopen, c.plain_of_mem hm x (by simp), ?_, hc.text_eq, rfl, hdangling⟩
  rw [List.append_assoc, c.at?_append, hm]
  simp

theorem Settled.write {d₁ d₂ : Disk} {r : WriteRequest} {content : Bytes}
    (hs : Settled t e d root top n d₁) (hr : Asked t e d root top n r)
    (hw : d₁.write (encode r.target) content = .ok d₂) : Settled t e d root top n d₂ := by
  refine ⟨hs.keeps.write (hr.admits c) hw, fun location hchanged ↦ ?_⟩
  obtain ⟨spot, executable, hwrote⟩ := Disk.exists_wrote hw
  by_cases hl : location = spot
  · refine ⟨r, hr, ?_⟩
    rw [hl, ← Disk.spot?_eq_of_grows hs.keeps.grows]
    exact hwrote.spot?_eq
  · exact hs.changed location fun hrel ↦
      hchanged (Disk.Node.rel_trans hrel (hwrote.replaces.elsewhere location hl))

omit c in
theorem settled_refl (hwf : d.top.WellFormed) : Settled t e d root top n d :=
  ⟨⟨hwf, .refl _ _⟩, fun _ h ↦ absurd (Disk.Node.rel_refl _) h⟩

theorem Settled.at?_sheet (hs : Settled t e d root top n d') {l : Location} {m : Node}
    {text : String} (hm : n.at? l = some m) (hk : m.kind ≠ .dir)
    (htext : stylesheet? (pathBelow root l) = some text) : d'.top.at? (top ++ l) = some m := by
  have hrel : Option.Rel Alike (d.top.at? (top ++ l)) (d'.top.at? (top ++ l)) := by
    refine Classical.byContradiction fun hchanged ↦ ?_
    -- What is new is typings, and typings are no stylesheet.
    obtain ⟨r, hr, hspot⟩ := hs.changed _ hchanged
    obtain ⟨above, x, other, g, hx, -, -, -, -, hwhere⟩ := hr.exists_spot c
    have hl := hwhere _ hspot
    rw [List.append_assoc] at hl
    obtain rfl := List.append_cancel_left hl
    obtain ⟨hdecode, hmodule⟩ := stylesheet?_eq_some_iff.1 htext
    rw [isModule_eq_false_of_ending hx hdecode] at hmodule
    cases hmodule
  rw [c.at?_append, hm] at hrel
  generalize d'.top.at? (top ++ l) = found at hrel
  cases hrel with
  | some ha => rw [ha.eq_of_not_dir hk]

end Calm

end StyleTypings.Walk
