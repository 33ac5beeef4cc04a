import StyleTypings.Proofs.Disk.WellFormed

namespace StyleTypings.Disk.Node

mutual

def locations : Node → List Location
  | .file _ _ => [[]]
  | .link _ => [[]]
  | .dir es => [] :: locationsOfEntries es

def locationsOfEntries : List (Name × Node) → List Location
  | [] => []
  | (name, n) :: es => n.locations.map (name :: ·) ++ locationsOfEntries es

end

mutual

theorem length_locations : (n : Node) → n.locations.length = n.size
  | .file _ _ => rfl
  | .link _ => rfl
  | .dir es => by
    rw [locations, size, List.length_cons, length_locationsOfEntries es, Nat.add_comm]

theorem length_locationsOfEntries :
    (es : List (Name × Node)) → (locationsOfEntries es).length = sizeOfEntries es
  | [] => rfl
  | (name, n) :: es => by
    rw [locationsOfEntries, sizeOfEntries, List.length_append, List.length_map,
      length_locations n, length_locationsOfEntries es]

end

theorem mem_locationsOfEntries {es : List (Name × Node)} {name : Name} {child : Node}
    {rest : Location} (h : es.lookup name = some child) (hrest : rest ∈ child.locations) :
    name :: rest ∈ locationsOfEntries es := by
  have hmem := mem_of_lookup h
  clear h
  induction es with
  | nil => cases hmem
  | cons entry es ih =>
    obtain ⟨first, m⟩ := entry
    rw [locationsOfEntries]
    rcases List.mem_cons.1 hmem with heq | hmem
    · cases heq
      exact List.mem_append_left _ (List.mem_map_of_mem hrest)
    · exact List.mem_append_right _ (ih hmem)

theorem mem_locations {n m : Node} {l : Location} (h : n.at? l = some m) : l ∈ n.locations := by
  induction l generalizing n with
  | nil => cases n <;> simp [locations]
  | cons name rest ih =>
    rw [at?_cons, Option.bind_eq_some_iff] at h
    obtain ⟨child, hchild, hat⟩ := h
    cases n with
    | file _ _ | link _ => cases hchild
    | dir es => exact List.mem_cons_of_mem _ (mem_locationsOfEntries hchild (ih hat))

end StyleTypings.Disk.Node
