import StyleTypings.Proofs.Disk.Spots

namespace StyleTypings.Disk

open Text (Bytes)

theorem lookup_filter_ne {α β : Type} [BEq α] [LawfulBEq α] [DecidableEq α] (name other : α)
    (es : List (α × β)) :
    (es.filter (·.1 != name)).lookup other = if other = name then none else es.lookup other := by
  induction es with
  | nil => simp
  | cons e es ih =>
    obtain ⟨first, m⟩ := e
    by_cases hf : first = name
    · subst hf
      rw [List.filter_cons_of_neg (by simp), ih, List.lookup_cons]
      split
      · rfl
      next hne => rw [beq_eq_false_iff_ne.2 hne]
    · rw [List.filter_cons_of_pos (by simpa using hf), List.lookup_cons, List.lookup_cons, ih]
      by_cases ho : other = first
      · subst ho
        simp [hf]
      · rw [beq_eq_false_iff_ne.2 ho]

namespace Node

variable {n : Node} {name : Name} {es : List (Name × Node)}

/-- A tree with nothing at a location that is otherwise like another tree. -/
structure Erases (n n' : Node) (spot : Location) : Prop where
  here : n'.at? spot = none
  elsewhere (other : Location) : other ≠ spot → Option.Rel Alike (n.at? other) (n'.at? other)

theorem erases_alter {parent : Location} (hp : n.at? parent = some (.dir es))
    (hn : ∀ fs, es.lookup name ≠ some (.dir fs)) :
    Erases n (n.alter (·.filter (·.1 != name)) parent) (parent ++ [name]) := by
  obtain ⟨here, elsewhere⟩ := at?_alter (f := (·.filter (·.1 != name))) hp
    (rel_of_lookup_eq (fun _ ho ↦ by rw [lookup_filter_ne, if_neg ho]) hn
      (by simp [lookup_filter_ne]))
  exact ⟨by rw [here, lookup_filter_ne, if_pos rfl], elsewhere⟩

theorem erases_file {spot : Location} {c : Bytes} {executable : Bool} (hspot : spot ≠ [])
    (h : n.at? spot = some (.file c executable)) : Erases n (n.erase spot) spot := by
  obtain ⟨parent, name, rfl⟩ := (List.eq_nil_or_concat spot).resolve_left hspot
  rw [List.concat_eq_append] at h ⊢
  obtain ⟨es, hp⟩ := exists_dir_of_at?_append h (by simp)
  rw [at?_append_name hp] at h
  have herase : n.erase (parent ++ [name]) = n.alter (·.filter (·.1 != name)) parent := by
    simp [erase]
  rw [herase]
  exact erases_alter hp (by simp [h])

theorem Erases.grown {n' : Node} {spot : Location} {c : Bytes} {executable : Bool}
    (he : Erases n n' spot) (h : n.at? spot = some (.file c executable)) :
    Grown (fun _ ↦ True) n' n := by
  intro location
  by_cases hl : location = spot
  · subst hl
    rw [he.here, h]
    exact .made trivial
  · have hrel := he.elsewhere location hl
    generalize n.at? location = a at hrel
    generalize n'.at? location = b at hrel
    cases hrel with
    | none => exact .none
    | some h => exact .some h.symm.akin

end Node

/-- Takes the file at a path away; a link in its place stays there. -/
def removeFile? (d : Disk) (path : Bytes) : Option Disk :=
  match d.lookup path false with
  | .ok (.found location (.file _ _)) =>
    some { d with
      top := d.top.erase location
      barred := d.barred.filter (·.1 != location) }
  | _ => none

structure Disturbs (d d' : Disk) (spot : Location) : Prop where
  spot?_eq (path : Bytes) : d'.spot? path = d.spot? path
  barred (other : Location) : other ≠ spot → d'.barred.lookup other = d.barred.lookup other
  elsewhere (other : Location) : other ≠ spot → d'.textAt? other = d.textAt? other

variable {d d' : Disk} {path : Bytes} {spot : Location}

theorem Disturbs.text?_other (h : Disturbs d d' spot) (hspot : d.spot? path ≠ some spot) :
    d'.text? path = d.text? path := by
  rw [text?, text?, h.spot?_eq]
  cases hs : d.spot? path with
  | none => rfl
  | some other => exact h.elsewhere other fun he ↦ hspot (he ▸ hs)

theorem Disturbs.seen?_other (h : Disturbs d d' spot) (hspot : d.spot? path ≠ some spot) :
    d'.seen? path = d.seen? path := by
  rw [seen?, seen?, h.spot?_eq]
  cases hs : d.spot? path with
  | none => rfl
  | some other =>
    have hother : other ≠ spot := fun he ↦ hspot (he ▸ hs)
    simp only [Option.bind_some, seenAt?, h.barred other hother, h.elsewhere other hother]

theorem textAt?_eq_of_rel {other : Location}
    (h : Option.Rel Node.Alike (d.top.at? other) (d'.top.at? other)) :
    d'.textAt? other = d.textAt? other := by
  unfold textAt?
  generalize d.top.at? other = a at h
  generalize d'.top.at? other = b at h
  cases h with
  | none => rfl
  | @some m m' ha =>
    cases m with
    | file | link => rw [ha.eq_of_not_dir (by simp [Node.kind])]
    | dir => cases m' <;> simp_all [Node.Alike]

theorem Stores.disturbs {content : Bytes} (h : Stores d d' spot content) : Disturbs d d' spot :=
  ⟨h.spot?_eq, fun _ _ ↦ by rw [h.barred_eq], h.elsewhere⟩

theorem ne_nil_of_lookup_file {followLast : Bool} {c : Bytes} {executable : Bool}
    (h : d.lookup path followLast = .ok (.found spot (.file c executable))) : spot ≠ [] := by
  rintro rfl
  obtain ⟨-, hleads⟩ := lookup_eq_ok_iff.1 h
  have hat := hleads.at?_eq
  obtain ⟨es, hd⟩ := hleads.exists_dir (pieces_ne_nil path)
  rw [Node.at?_nil, Option.some.injEq] at hat
  obtain ⟨-, hm⟩ := Node.eq_nil_of_at? (by rw [hat]; rfl) hd
  rw [hat] at hm
  cases hm

theorem exists_disturbs_of_remove (h : d.removeFile? path = some d') :
    ∃ spot, d.spot? path = some spot ∧ Disturbs d d' spot := by
  unfold removeFile? at h
  split at h
  next location c executable hl =>
    cases h
    obtain ⟨hfollowable, hleads⟩ := lookup_eq_ok_iff.1 hl
    have herases := Node.erases_file (ne_nil_of_lookup_file hl) hleads.at?_eq
    have hback : Grows (fun _ ↦ True) { d with top := d.top.erase location } d :=
      ⟨rfl, rfl, herases.grown hleads.at?_eq⟩
    refine ⟨location, spot?_eq_some_iff.2 (.inl ⟨c, executable, lookup_eq_ok_iff.2
      ⟨hfollowable, hleads.followLast_true (by simp [Node.kind])⟩⟩),
      fun path ↦ (spot?_eq_of_grows hback path).symm,
      fun other hne ↦ by simp only [lookup_filter_ne, if_neg hne],
      fun other hne ↦ textAt?_eq_of_rel (herases.elsewhere other hne)⟩
  · cases h

end StyleTypings.Disk
