import StyleTypings.Disk.Node

namespace StyleTypings.Disk.Node

open Text (Bytes)

theorem at?_cons (n : Node) (name : Name) (rest : Location) :
    n.at? (name :: rest) = (n.entries.lookup name).bind (·.at? rest) := by
  rw [at?]
  cases n.entries.lookup name <;> rfl

theorem at?_append (n : Node) (a b : Location) : n.at? (a ++ b) = (n.at? a).bind (·.at? b) := by
  induction a generalizing n with
  | nil => simp
  | cons name a ih =>
    rw [List.cons_append, at?_cons, at?_cons]
    cases n.entries.lookup name with
    | none => rfl
    | some child => exact ih child

theorem at?_append_name {n : Node} {here : Location} {es : List (Name × Node)}
    (h : n.at? here = some (.dir es)) (name : Name) : n.at? (here ++ [name]) = es.lookup name := by
  rw [at?_append, h, Option.bind_some, at?_cons]
  simp [entries]

theorem at?_eq_none_of_not_dir {n : Node} (h : ∀ es, n ≠ .dir es) (name : Name) (rest : Location) :
    n.at? (name :: rest) = none := by
  cases n with
  | dir es => exact absurd rfl (h es)
  | file _ _ | link _ => rfl

theorem exists_dir_of_at?_append {n m : Node} {a b : Location} (h : n.at? (a ++ b) = some m)
    (hb : b ≠ []) : ∃ es, n.at? a = some (.dir es) := by
  rw [at?_append] at h
  obtain ⟨k, hk, hm⟩ := Option.bind_eq_some_iff.1 h
  obtain ⟨name, rest, rfl⟩ := List.exists_cons_of_ne_nil hb
  cases k with
  | dir es => exact ⟨es, hk⟩
  | file _ _ | link _ => cases hm

theorem at?_cases {n m : Node} {here : Location} (h : n.at? here = some m) :
    here = [] ∧ m = n ∨ ∃ name child rest, here = name :: rest ∧
      n.entries.lookup name = some child ∧ child.at? rest = some m := by
  cases here with
  | nil =>
    rw [at?_nil] at h
    exact .inl ⟨rfl, (Option.some.inj h).symm⟩
  | cons name rest =>
    rw [at?_cons, Option.bind_eq_some_iff] at h
    obtain ⟨child, hchild, hat⟩ := h
    exact .inr ⟨name, child, rest, rfl, hchild, hat⟩

theorem eq_nil_of_at? {n m : Node} {here : Location} (hn : n.entries = [])
    (h : n.at? here = some m) : here = [] ∧ m = n := by
  rcases at?_cases h with hnil | ⟨name, child, rest, -, hchild, -⟩
  · exact hnil
  · rw [hn] at hchild
    cases hchild

theorem at?_dropLast_ne_none {n m : Node} {here : Location} (h : n.at? here = some m) :
    n.at? here.dropLast ≠ none := by
  rcases List.eq_nil_or_concat here with rfl | ⟨above, name, rfl⟩
  · simp
  · rw [List.concat_eq_append] at h ⊢
    obtain ⟨es, hes⟩ := exists_dir_of_at?_append h (by simp)
    simp [hes]

theorem lookup_withEntry_of_ne {name other : Name} (h : other ≠ name) (n : Node)
    (es : List (Name × Node)) : (withEntry name n es).lookup other = es.lookup other := by
  have hb : (other == name) = false := beq_eq_false_iff_ne.2 h
  induction es with
  | nil => simp [withEntry, List.lookup_cons, hb]
  | cons e es ih =>
    obtain ⟨first, m⟩ := e
    by_cases hf : first = name
    · subst hf
      simp [withEntry, List.lookup_cons, hb]
    · simp [withEntry, hf, List.lookup_cons, ih]

theorem withEntry_of_lookup {name : Name} {m : Node} {es : List (Name × Node)}
    (h : es.lookup name = some m) : withEntry name m es = es := by
  induction es with
  | nil => cases h
  | cons e es ih =>
    obtain ⟨first, k⟩ := e
    by_cases hf : first = name
    · subst hf
      simp only [List.lookup_cons_self, Option.some.injEq] at h
      simp [withEntry, h]
    · have hb : (name == first) = false := beq_eq_false_iff_ne.2 fun he ↦ hf he.symm
      rw [List.lookup_cons, hb] at h
      simp [withEntry, hf, ih h]

theorem alter_eq_self {n : Node} {location : Location} {es : List (Name × Node)}
    {f : List (Name × Node) → List (Name × Node)} (h : n.at? location = some (.dir es))
    (hf : f es = es) : n.alter f location = n := by
  induction location generalizing n with
  | nil =>
    rw [at?_nil] at h
    cases h
    rw [alter, hf]
  | cons name rest ih =>
    rw [at?_cons, Option.bind_eq_some_iff] at h
    obtain ⟨child, hchild, hat⟩ := h
    cases n with
    | file _ _ | link _ => cases hchild
    | dir fs =>
      simp only [entries] at hchild
      simp only [alter, hchild, ih hat, withEntry_of_lookup hchild]

theorem put_eq_self {n m : Node} {location : Location} (h : n.at? location = some m) :
    n.put location m = n := by
  rcases List.eq_nil_or_concat location with rfl | ⟨above, name, rfl⟩
  · rw [at?_nil] at h
    exact (Option.some.inj h).symm
  · rw [List.concat_eq_append] at *
    obtain ⟨es, hes⟩ := exists_dir_of_at?_append h (by simp)
    rw [at?_append_name hes] at h
    simpa [put] using alter_eq_self hes (withEntry_of_lookup h)

def Alike : Node → Node → Prop
  | .dir _, .dir _ => True
  | a, b => a = b

theorem Alike.refl (n : Node) : Alike n n := by
  cases n <;> simp [Alike]

theorem Alike.kind_eq {a b : Node} (h : Alike a b) : a.kind = b.kind := by
  cases a <;> cases b <;> simp_all [Alike, kind]

theorem Alike.eq_of_not_dir {a b : Node} (h : Alike a b) (ha : a.kind ≠ .dir) : b = a := by
  cases a <;> cases b <;> simp_all [Alike, kind]

theorem Alike.symm {a b : Node} (h : Alike a b) : Alike b a := by
  cases a <;> cases b <;> simp_all [Alike]

theorem Alike.trans {a b c : Node} (h : Alike a b) (h' : Alike b c) : Alike a c := by
  cases a <;> cases b <;> cases c <;> simp_all [Alike]

/-- A tree with a file at a location that is otherwise like another tree. -/
structure Replaces (n n' : Node) (spot : Location) (m : Node) : Prop where
  here : n'.at? spot = some m
  elsewhere (other : Location) : other ≠ spot → Option.Rel Alike (n.at? other) (n'.at? other)

theorem rel_refl (o : Option Node) : Option.Rel Alike o o := by
  cases o with
  | none => exact .none
  | some n => exact .some (.refl n)

theorem rel_symm {a b : Option Node} (h : Option.Rel Alike a b) : Option.Rel Alike b a := by
  cases h with
  | none => exact .none
  | some h => exact .some h.symm

theorem rel_trans {a b c : Option Node} (h : Option.Rel Alike a b) (h' : Option.Rel Alike b c) :
    Option.Rel Alike a c := by
  cases h with
  | none => exact h'
  | some h =>
    cases h' with
    | some h' => exact .some (h.trans h')

/-- Directories that list the same but for one entry, which is a directory in neither, are alike
everywhere else. -/
theorem rel_of_lookup_eq {es es' : List (Name × Node)} {name : Name}
    (hsame : ∀ other, other ≠ name → es'.lookup other = es.lookup other)
    (hn : ∀ fs, es.lookup name ≠ some (.dir fs)) (hn' : ∀ fs, es'.lookup name ≠ some (.dir fs))
    (other : Location) (ho : other ≠ [name]) :
    Option.Rel Alike ((Node.dir es).at? other) ((Node.dir es').at? other) := by
  have hnone : ∀ {found : Option Node} {second : Name} {rest : Location},
      (∀ fs, found ≠ some (.dir fs)) → found.bind (·.at? (second :: rest)) = none := by
    intro found second rest hfound
    cases found with
    | none => rfl
    | some k => exact at?_eq_none_of_not_dir (fun fs h ↦ hfound fs (h ▸ rfl)) second rest
  cases other with
  | nil => exact .some trivial
  | cons first rest =>
    rw [at?_cons, at?_cons]
    simp only [entries]
    by_cases hf : first = name
    · subst hf
      obtain ⟨second, rest, rfl⟩ := List.exists_cons_of_ne_nil fun h ↦ ho (h ▸ rfl)
      rw [hnone hn, hnone hn']
      exact .none
    · rw [hsame first hf]
      exact rel_refl _

theorem at?_alter {n : Node} {parent : Location} {f : List (Name × Node) → List (Name × Node)}
    {es : List (Name × Node)} {name : Name} (hp : n.at? parent = some (.dir es))
    (helse : ∀ other, other ≠ [name] →
      Option.Rel Alike ((Node.dir es).at? other) ((Node.dir (f es)).at? other)) :
    (n.alter f parent).at? (parent ++ [name]) = (f es).lookup name ∧
      ∀ other, other ≠ parent ++ [name] →
        Option.Rel Alike (n.at? other) ((n.alter f parent).at? other) := by
  induction parent generalizing n with
  | nil =>
    obtain rfl : n = .dir es := by simpa using hp
    exact ⟨by simp [alter, at?_cons, entries], helse⟩
  | cons first parent ih =>
    rw [at?_cons] at hp
    obtain ⟨child, hc, hchild⟩ := Option.bind_eq_some_iff.1 hp
    cases n with
    | file _ _ | link _ => cases hc
    | dir fs =>
      simp only [entries] at hc
      obtain ⟨here, elsewhere⟩ := ih hchild
      simp only [alter, hc]
      constructor
      · rw [List.cons_append, at?_cons]
        simpa only [entries, lookup_withEntry, Option.bind_some] using here
      · intro other ho
        cases other with
        | nil => exact .some trivial
        | cons second rest =>
          rw [at?_cons, at?_cons]
          simp only [entries]
          by_cases hs : second = first
          · subst hs
            rw [lookup_withEntry, hc, Option.bind_some, Option.bind_some]
            exact elsewhere rest fun h ↦ ho (by rw [h, List.cons_append])
          · rw [lookup_withEntry_of_ne hs]
            exact rel_refl _

variable {m : Node} (hm : ∀ es, m ≠ .dir es)
include hm

theorem replaces_alter {n : Node} {parent : Location} {es : List (Name × Node)} {name : Name}
    (hp : n.at? parent = some (.dir es)) (hn : ∀ fs, es.lookup name ≠ some (.dir fs)) :
    Replaces n (n.alter (withEntry name m) parent) (parent ++ [name]) m := by
  obtain ⟨here, elsewhere⟩ := at?_alter (f := withEntry name m) hp
    (rel_of_lookup_eq (fun _ ho ↦ lookup_withEntry_of_ne ho ..) hn
      (by simpa [lookup_withEntry]))
  exact ⟨here.trans (lookup_withEntry ..), elsewhere⟩

/-- Putting a file, or anything else that lists nothing, into a directory. -/
theorem replaces_put {n : Node} {parent : Location} {es : List (Name × Node)} {name : Name}
    (hp : n.at? parent = some (.dir es)) (hn : ∀ fs, es.lookup name ≠ some (.dir fs)) :
    Replaces n (n.put (parent ++ [name]) m) (parent ++ [name]) m := by
  have h : n.put (parent ++ [name]) m = n.alter (withEntry name m) parent := by
    simp [put]
  rw [h]
  exact replaces_alter hm hp hn

omit hm

/-- Nodes of one kind; links say the same. -/
inductive Akin : Node → Node → Prop
  | file {c c' : Bytes} {x x' : Bool} : Akin (.file c x) (.file c' x')
  | link {target : Bytes} : Akin (.link target) (.link target)
  | dir {es es' : List (Name × Node)} : Akin (.dir es) (.dir es')

theorem Akin.refl (n : Node) : Akin n n := by
  cases n <;> constructor

theorem Akin.trans {a b c : Node} (h : Akin a b) (h' : Akin b c) : Akin a c := by
  cases h <;> cases h' <;> constructor

theorem Akin.kind_eq {a b : Node} (h : Akin a b) : b.kind = a.kind := by
  cases h <;> rfl

theorem Alike.akin {a b : Node} (h : Alike a b) : Akin a b := by
  cases a <;> cases b <;> simp_all [Alike] <;> constructor

/-- What can become of one location while files are written. A file can be made if `new` says so. -/
inductive Grew (new : Prop) : Option Node → Option Node → Prop
  | none : Grew new none none
  | some {a b : Node} (h : Akin a b) : Grew new (some a) (some b)
  | made {c : Bytes} {x : Bool} (h : new) : Grew new none (some (.file c x))

theorem Grew.refl (new : Prop) (o : Option Node) : Grew new o o := by
  cases o with
  | none => exact .none
  | some n => exact .some (.refl n)

theorem Grew.trans {new : Prop} {a b c : Option Node} (h : Grew new a b) (h' : Grew new b c) :
    Grew new a c := by
  cases h with
  | none => exact h'
  | some h =>
    cases h' with
    | some h' => exact .some (h.trans h')
  | made h =>
    cases h' with
    | some h' =>
      cases h' with
      | file => exact .made h

theorem Grew.dir_iff {new : Prop} {a b : Option Node} (h : Grew new a b) :
    (∃ es, a = Option.some (.dir es)) ↔ ∃ es, b = Option.some (.dir es) := by
  cases h with
  | none => simp
  | some h => cases h <;> simp
  | made => simp

theorem Grew.link_iff {new : Prop} {a b : Option Node} (h : Grew new a b) (target : Bytes) :
    a = Option.some (.link target) ↔ b = Option.some (.link target) := by
  cases h with
  | none => simp
  | some h => cases h <;> simp
  | made => simp

/-- A tree in which some files have been written, and made where `new` says so. -/
def Grown (new : Location → Prop) (n n' : Node) : Prop :=
  ∀ location, Grew (new location) (n.at? location) (n'.at? location)

theorem Grown.refl (new : Location → Prop) (n : Node) : Grown new n n :=
  fun _ ↦ .refl _ _

theorem Grown.trans {new : Location → Prop} {a b c : Node} (h : Grown new a b)
    (h' : Grown new b c) : Grown new a c :=
  fun location ↦ (h location).trans (h' location)

theorem Replaces.grown {n n' : Node} {spot : Location} {c : Bytes} {x : Bool}
    {new : Location → Prop} (hr : Replaces n n' spot (.file c x))
    (hspot : n.at? spot = none ∧ new spot ∨ ∃ c x, n.at? spot = some (.file c x)) :
    Grown new n n' := by
  intro location
  by_cases hl : location = spot
  · subst hl
    rw [hr.here]
    rcases hspot with ⟨hnone, hnew⟩ | ⟨c, x, hsome⟩
    · rw [hnone]
      exact .made hnew
    · rw [hsome]
      exact .some .file
  · have hrel := hr.elsewhere location hl
    generalize n.at? location = a at hrel
    generalize n'.at? location = b at hrel
    cases hrel with
    | none => exact .none
    | some h => exact .some h.akin

end StyleTypings.Disk.Node
