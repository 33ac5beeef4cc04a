import Mathlib.Data.List.Nodup
import StyleTypings.Proofs.Disk.Writing

namespace StyleTypings.Disk

open Text (Bytes)

structure Plain (name : Name) : Prop where
  not_empty : name ≠ []
  not_dot : name ≠ [46]
  not_dots : name ≠ [46, 46]
  no_slash : slash ∉ name

instance (name : Name) : Decidable (Plain name) :=
  decidable_of_iff (name ≠ [] ∧ name ≠ [46] ∧ name ≠ [46, 46] ∧ slash ∉ name)
    ⟨fun ⟨h₁, h₂, h₃, h₄⟩ ↦ ⟨h₁, h₂, h₃, h₄⟩, fun ⟨h₁, h₂, h₃, h₄⟩ ↦ ⟨h₁, h₂, h₃, h₄⟩⟩

theorem Plain.entered {name : Name} (h : Plain name) (hs : name.length ≤ longestName) :
    Entered name :=
  ⟨by simp [h.not_empty, h.not_dot], by simp [h.not_dots], by omega⟩

theorem Entered.plain {name : Name} (h : Entered name) (hs : slash ∉ name) : Plain name := by
  obtain ⟨hhere, hup, -⟩ := h
  simp only [Bool.or_eq_true, beq_iff_eq, not_or] at hhere hup
  exact ⟨hhere.1, hhere.2, hup, hs⟩

namespace Node

/-- Every directory of a tree lists plain names, each of them once. -/
def WellFormed (n : Node) : Prop :=
  ∀ location es, n.at? location = some (.dir es) →
    (es.map (·.1)).Nodup ∧ ∀ name ∈ es.map (·.1), Plain name

theorem mem_names_iff {name : Name} {es : List (Name × Node)} :
    name ∈ es.map (·.1) ↔ ∃ m, es.lookup name = some m := by
  induction es with
  | nil => simp
  | cons e es ih =>
    obtain ⟨first, m⟩ := e
    by_cases h : name = first
    · simp [h]
    · have hb : (name == first) = false := beq_eq_false_iff_ne.2 h
      simp only [List.map_cons, List.mem_cons, h, false_or, List.lookup_cons, hb, ih]

theorem mem_of_lookup {es : List (Name × Node)} {name : Name} {m : Node}
    (h : es.lookup name = some m) : (name, m) ∈ es := by
  induction es with
  | nil => cases h
  | cons e es ih =>
    obtain ⟨first, k⟩ := e
    by_cases he : name = first
    · subst he
      simp only [List.lookup_cons_self, Option.some.injEq] at h
      exact h ▸ List.mem_cons_self ..
    · have hne : (name == first) = false := beq_eq_false_iff_ne.2 he
      rw [List.lookup_cons, hne] at h
      exact List.mem_cons_of_mem _ (ih h)

theorem lookup_of_mem {es : List (Name × Node)} (hnodup : (es.map (·.1)).Nodup) {name : Name}
    {m : Node} (h : (name, m) ∈ es) : es.lookup name = some m := by
  induction es with
  | nil => cases h
  | cons e es ih =>
    obtain ⟨first, k⟩ := e
    rw [List.map_cons, List.nodup_cons] at hnodup
    rcases List.mem_cons.1 h with he | h
    · cases he
      simp
    · have hname : name ∈ es.map (·.1) := List.mem_map.2 ⟨_, h, rfl⟩
      have hne : (name == first) = false := beq_eq_false_iff_ne.2 fun he ↦ hnodup.1 (he ▸ hname)
      rw [List.lookup_cons, hne]
      exact ih hnodup.2 h

theorem names_withEntry (name : Name) (m : Node) (es : List (Name × Node)) :
    (withEntry name m es).map (·.1) =
      if name ∈ es.map (·.1) then es.map (·.1) else es.map (·.1) ++ [name] := by
  induction es with
  | nil => rfl
  | cons e es ih =>
    obtain ⟨first, k⟩ := e
    by_cases h : first = name
    · simp [withEntry, h]
    · have hn : ¬name = first := fun he ↦ h he.symm
      simp only [withEntry, beq_iff_eq, h, if_false, List.map_cons, ih, List.mem_cons, hn, false_or]
      split <;> rfl

theorem WellFormed.of_lookup {es : List (Name × Node)} (h : WellFormed (.dir es)) {name : Name}
    {child : Node} (hl : es.lookup name = some child) : WellFormed child := by
  intro location fs hat
  refine h (name :: location) fs ?_
  rw [at?_cons]
  simpa [entries, hl] using hat

theorem wellFormed_dir {es : List (Name × Node)} (hnodup : (es.map (·.1)).Nodup)
    (hplain : ∀ name ∈ es.map (·.1), Plain name)
    (hchild : ∀ name child, es.lookup name = some child → WellFormed child) :
    WellFormed (.dir es) := by
  intro location fs hat
  cases location with
  | nil =>
    rw [at?_nil] at hat
    cases hat
    exact ⟨hnodup, hplain⟩
  | cons name rest =>
    rw [at?_cons] at hat
    obtain ⟨child, hl, hat⟩ := Option.bind_eq_some_iff.1 hat
    exact hchild name child hl rest fs hat

theorem wellFormed_of_entries {es : List (Name × Node)} (hnodup : (es.map (·.1)).Nodup)
    (hplain : ∀ name ∈ es.map (·.1), Plain name) (h : ∀ entry ∈ es, WellFormed entry.2) :
    WellFormed (.dir es) :=
  wellFormed_dir hnodup hplain fun _ _ hl ↦ h _ (mem_of_lookup hl)

theorem wellFormed_empty : WellFormed (.dir []) := wellFormed_of_entries .nil (by simp) (by simp)

theorem wellFormed_entry {name : Name} {n : Node} (hname : Plain name) (hn : WellFormed n) :
    WellFormed (.dir [(name, n)]) :=
  wellFormed_of_entries (by simp) (by simpa using hname) (by simpa using hn)

theorem wellFormed_of_not_dir {n : Node} (h : ∀ es, n ≠ .dir es) : WellFormed n := by
  intro location es hat
  cases location with
  | nil =>
    rw [at?_nil] at hat
    exact absurd (Option.some.inj hat) (h es)
  | cons name rest =>
    rw [at?_eq_none_of_not_dir h] at hat
    cases hat

theorem WellFormed.withEntry {es : List (Name × Node)} (h : WellFormed (.dir es)) {name : Name}
    (hname : Plain name) {m : Node} (hm : WellFormed m) :
    WellFormed (.dir (withEntry name m es)) := by
  obtain ⟨hnodup, hplain⟩ := h [] es rfl
  refine wellFormed_dir ?_ ?_ fun other child hl ↦ ?_
  · rw [names_withEntry]
    split
    · exact hnodup
    next hnot => exact List.nodup_append'.2 ⟨hnodup, by simp, by simpa using hnot⟩
  · rw [names_withEntry]
    intro other ho
    split at ho
    · exact hplain other ho
    · rcases List.mem_append.1 ho with ho | ho
      · exact hplain other ho
      · exact List.mem_singleton.1 ho ▸ hname
  · by_cases he : other = name
    · subst he
      rw [lookup_withEntry] at hl
      cases hl
      exact hm
    · rw [lookup_withEntry_of_ne he] at hl
      exact h.of_lookup hl

theorem WellFormed.alter {n : Node} (h : WellFormed n) {name : Name} (hname : Plain name) {m : Node}
    (hm : WellFormed m) (parent : Location) :
    WellFormed (n.alter (Node.withEntry name m) parent) := by
  induction parent generalizing n with
  | nil =>
    cases n with
    | dir es => exact h.withEntry hname hm
    | file _ _ | link _ => exact h
  | cons first parent ih =>
    cases n with
    | file _ _ | link _ => exact h
    | dir es =>
      simp only [Node.alter]
      split
      next child hl =>
        have hfirst := (h [] es rfl).2 first (mem_names_iff.2 ⟨child, hl⟩)
        exact h.withEntry hfirst (ih (h.of_lookup hl))
      · exact h

theorem WellFormed.put {n : Node} (h : WellFormed n) {m : Node} (hm : WellFormed m)
    {spot : Location} (hname : ∀ name ∈ spot.getLast?, Plain name) : WellFormed (n.put spot m) := by
  unfold Node.put
  split
  · exact hm
  next name hlast => exact h.alter (hname name hlast) hm _

end Node

theorem slash_notMem_of_mem_pieces {path : Bytes} {piece : Name} (h : piece ∈ pieces path) :
    slash ∉ piece := by
  induction path generalizing piece with
  | nil =>
    obtain rfl := List.mem_singleton.1 h
    simp
  | cons b rest ih =>
    unfold pieces at h
    split at h
    · rcases List.mem_cons.1 h with rfl | h
      · simp
      · exact ih h
    next hb =>
      split at h
      next hnil => exact absurd hnil (pieces_ne_nil rest)
      next p ps hp =>
        rcases List.mem_cons.1 h with rfl | h
        · have hrest := ih (hp ▸ List.mem_cons_self ..)
          simp only [beq_iff_eq] at hb
          simp [Ne.symm hb, hrest]
        · exact ih (hp ▸ List.mem_cons_of_mem _ h)

theorem Leads.missing_plain {top : Node} {followLast : Bool} {links : Nat} {here : Location}
    {names : List Name} {location : Location} {slashed : Bool}
    (hnames : ∀ piece ∈ names, slash ∉ piece)
    (h : Leads top followLast links here names (.missing location slashed)) :
    ∃ above name, location = above ++ [name] ∧ Plain name := by
  generalize hdest : Destination.missing location slashed = dest at h
  induction h with
  | arrived | file | linkLast => cases hdest
  | missing hd hp =>
    cases hdest
    exact ⟨_, _, rfl, hp.plain (hnames _ (List.mem_cons_self ..))⟩
  | skip _ _ _ ih | up _ _ _ _ ih | dir _ _ _ _ ih =>
    exact ih (fun piece hm ↦ hnames piece (List.mem_cons_of_mem _ hm)) hdest
  | link _ _ _ _ _ ih =>
    refine ih (fun piece hm ↦ ?_) hdest
    rcases List.mem_append.1 hm with hm | hm
    · exact slash_notMem_of_mem_pieces hm
    · exact hnames piece (List.mem_cons_of_mem _ hm)

theorem wellFormed_of_write {d d' : Disk} {path content : Bytes} (h : d.write path content = .ok d')
    (hd : d.top.WellFormed) : d'.top.WellFormed := by
  unfold write at h
  split at h
  next location c x hl =>
    cases h
    refine hd.put (Node.wellFormed_of_not_dir (by simp)) fun name hname ↦ ?_
    obtain ⟨above, rfl⟩ := List.getLast?_eq_some_iff.1 hname
    have hat := (lookup_eq_ok_iff.1 hl).2.at?_eq
    obtain ⟨es, hp⟩ := Node.exists_dir_of_at?_append hat (by simp)
    rw [Node.at?_append_name hp] at hat
    exact (hd above es hp).2 name (Node.mem_names_iff.2 ⟨_, hat⟩)
  next => cases h
  next => cases h
  next location hl =>
    cases h
    refine hd.put (Node.wellFormed_of_not_dir (by simp)) fun name hname ↦ ?_
    obtain ⟨above, other, rfl, hplain⟩ := Leads.missing_plain
      (fun piece hm ↦ slash_notMem_of_mem_pieces hm) (lookup_eq_ok_iff.1 hl).2
    simp only [List.getLast?_append, List.getLast?_singleton, Option.some_or,
      Option.mem_def, Option.some.injEq] at hname
    exact hname ▸ hplain
  next => cases h

end StyleTypings.Disk
