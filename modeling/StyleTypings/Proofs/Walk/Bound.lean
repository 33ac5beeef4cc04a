import StyleTypings.Proofs.Walk.Chosen

namespace StyleTypings.Walk

open Disk (Name Node)

/-- How many tasks an entry takes at most; one that the writer has made takes one. -/
def weight : Option Node → Nat
  | some m => 3 * m.size - 1
  | none => 1

theorem size_pos (m : Node) : 0 < m.size := by
  cases m with
  | file _ _ | link _ => exact Nat.one_pos
  | dir es =>
    rw [Node.size]
    omega

theorem sum_map_le_of_sublist {f : Name → Nat} {a b : List Name} (h : a.Sublist b) :
    (a.map f).sum ≤ (b.map f).sum := by
  induction h with
  | slnil => exact Nat.le_refl _
  | cons name _ ih =>
    rw [List.map_cons, List.sum_cons]
    omega
  | cons_cons name _ ih =>
    rw [List.map_cons, List.map_cons, List.sum_cons, List.sum_cons]
    omega

theorem sum_map_le_of_subset {f : Name → Nat} {a b : List Name} (ha : a.Nodup) (h : a ⊆ b) :
    (a.map f).sum ≤ (b.map f).sum := by
  obtain ⟨c, hperm, hsub⟩ := List.Nodup.subperm ha h
  calc (a.map f).sum = (c.map f).sum := ((hperm.map f).sum_nat).symm
    _ ≤ (b.map f).sum := sum_map_le_of_sublist hsub

theorem sum_map_filter (f : Name → Nat) (p : Name → Bool) (names : List Name) :
    (names.map f).sum =
      ((names.filter p).map f).sum + ((names.filter fun name ↦ !p name).map f).sum := by
  induction names with
  | nil => rfl
  | cons name names ih =>
    cases hp : p name <;> simp [hp, ih] <;> omega

theorem sum_weight_add_length (es : List (Name × Node)) (hnodup : (es.map (·.1)).Nodup) :
    ((es.map (·.1)).map fun name ↦ weight (es.lookup name)).sum + es.length =
      3 * Node.sizeOfEntries es := by
  induction es with
  | nil => rfl
  | cons entry es ih =>
    obtain ⟨first, m⟩ := entry
    rw [List.map_cons, List.nodup_cons] at hnodup
    have hrest : ((es.map (·.1)).map fun name ↦ weight (((first, m) :: es).lookup name)) =
        (es.map (·.1)).map fun name ↦ weight (es.lookup name) := by
      refine List.map_congr_left fun name hname ↦ ?_
      have hne : (name == first) = false := beq_eq_false_iff_ne.2 fun he ↦ hnodup.1 (he ▸ hname)
      rw [List.lookup_cons, hne]
    have hfirst : weight (((first, m) :: es).lookup first) = 3 * m.size - 1 := by
      simp [weight]
    have := ih hnodup.2
    have := size_pos m
    rw [List.map_cons, List.map_cons, List.sum_cons, hrest, hfirst, List.length_cons,
      Node.sizeOfEntries]
    omega

theorem sum_weight_le {es : List (Name × Node)} (hes : (es.map (·.1)).Nodup) {names : List Name}
    (hnames : names.Nodup) (ending : Name)
    (hnew : ∀ name ∈ names, es.lookup name = none →
      ∃ x ∈ es.map (·.1), name = x ++ ending) :
    (names.map fun name ↦ weight (es.lookup name)).sum ≤ 3 * Node.sizeOfEntries es := by
  have hsplit := sum_map_filter (fun name ↦ weight (es.lookup name))
    (fun name ↦ (es.lookup name).isSome) names
  have hknown : ((names.filter fun name ↦ (es.lookup name).isSome).map
      fun name ↦ weight (es.lookup name)).sum ≤
        ((es.map (·.1)).map fun name ↦ weight (es.lookup name)).sum := by
    refine sum_map_le_of_subset (hnames.filter _) fun name hname ↦ ?_
    exact Node.mem_names_iff.2 (Option.isSome_iff_exists.1 (List.mem_filter.1 hname).2)
  have hmade : ((names.filter fun name ↦ !(es.lookup name).isSome).map
      fun name ↦ weight (es.lookup name)).sum ≤ es.length := by
    generalize hmade : (names.filter fun name ↦ !(es.lookup name).isSome) = made
    have hnone : ∀ name ∈ made, name ∈ names ∧ es.lookup name = none := by
      intro name hname
      rw [← hmade, List.mem_filter] at hname
      simpa using hname
    have hones : made.map (fun name ↦ weight (es.lookup name)) = made.map fun _ ↦ 1 :=
      List.map_congr_left fun name hname ↦ by rw [(hnone name hname).2]; rfl
    have hlength : made.length ≤ ((es.map (·.1)).map (· ++ ending)).length := by
      refine (List.Nodup.subperm (hmade ▸ hnames.filter _) fun name hname ↦ ?_).length_le
      obtain ⟨x, hx, rfl⟩ := hnew name (hnone name hname).1 (hnone name hname).2
      exact List.mem_map_of_mem hx
    simpa [hones] using hlength
  have := sum_weight_add_length es hes
  omega

end StyleTypings.Walk
