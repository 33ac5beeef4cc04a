import StyleTypings.Proofs.Walk.Bound
import StyleTypings.Proofs.Walk.Course
import StyleTypings.Proofs.Walk.Ground

namespace StyleTypings.Walk

open Disk (Location Name Node)
open Text (Bytes)
open World (Tame targets)

variable {t : Toolchain} {e : Exclusion} {d : Disk} {root : Bytes} {top : Location} {n : Node}

/-- Some tasks are a walk over a part of a tree: a walk that comes to its end from there has found
what it is to find in that part, and goes on behind them. -/
def Walks (t : Toolchain) (e : Exclusion) (d : Disk) (root : Bytes) (top : Location) (n : Node)
    (part : Location → Prop) (cost : Nat) (tasks : List Task) : Prop :=
  ∀ later s fuel w answer last, cost ≤ fuel → Tame (Keeps d) (Admits d root top) w →
    Returns t e fuel ⟨tasks ++ later, s⟩ w answer last →
    ∃ found pruned fuel' w', Lists e root n part found pruned ∧ fuel ≤ fuel' + cost ∧
      Tame (Keeps d) (Admits d root top) w' ∧
      targets w'.calls = targets w.calls ++ found.map (Module.typingsPath ·.2) ∧
      Returns t e fuel' ⟨later, ⟨s.generated ++ found.map (Module.typingsPath ·.2),
        s.excluded ++ pruned.map (Text.lossy ∘ pathBelow root)⟩⟩ w' answer last

variable {part part' : Location → Prop} {cost cost' : Nat} {tasks tasks' : List Task}

theorem Walks.congr (h : Walks t e d root top n part cost tasks)
    (hfound : ∀ l text, Chosen e root n l text → (part l ↔ part' l))
    (hpruned : ∀ l, Pruned e root n l → (part l ↔ part' l)) :
    Walks t e d root top n part' cost tasks := by
  intro later s fuel w answer last hfuel htame hreturns
  obtain ⟨found, pruned, fuel', w', hlists, hrest⟩ :=
    h later s fuel w answer last hfuel htame hreturns
  exact ⟨found, pruned, fuel', w', hlists.congr hfound hpruned, hrest⟩

theorem Walks.mono (h : Walks t e d root top n part cost tasks) (hcost : cost ≤ cost') :
    Walks t e d root top n part cost' tasks := by
  intro later s fuel w answer last hfuel htame hreturns
  obtain ⟨found, pruned, fuel', w', hlists, hfuel', hrest⟩ :=
    h later s fuel w answer last (by omega) htame hreturns
  exact ⟨found, pruned, fuel', w', hlists, by omega, hrest⟩

theorem Walks.append (h : Walks t e d root top n part cost tasks)
    (h' : Walks t e d root top n part' cost' tasks') (hlt : ∀ l l', part l → part' l' → l < l') :
    Walks t e d root top n (fun l ↦ part l ∨ part' l) (cost + cost') (tasks ++ tasks') := by
  intro later s fuel w answer last hfuel htame hreturns
  rw [List.append_assoc] at hreturns
  obtain ⟨found, pruned, fuel₁, w₁, hlists, hfuel₁, htame₁, htargets₁, hreturns₁⟩ :=
    h _ s fuel w answer last (by omega) htame hreturns
  obtain ⟨found', pruned', fuel₂, w₂, hlists', hfuel₂, htame₂, htargets₂, hreturns₂⟩ :=
    h' later _ fuel₁ w₁ answer last (by omega) htame₁ hreturns₁
  refine ⟨found ++ found', pruned ++ pruned', fuel₂, w₂, hlists.append hlists' hlt, by omega,
    htame₂, ?_, ?_⟩
  · rw [htargets₂, htargets₁, List.map_append, List.append_assoc]
  · simpa only [List.map_append, List.append_assoc] using hreturns₂

theorem Walks.nil : Walks t e d root top n (fun _ ↦ False) 0 [] := by
  intro later s fuel w answer last _ htame hreturns
  exact ⟨[], [], fuel, w, .nil, Nat.le_refl _, htame, by simp, by simpa using hreturns⟩

theorem eq_of_prefix_of_not_dir {l l' : Location} {m m' : Node} (hm : n.at? l = some m)
    (hk : m.kind ≠ .dir) (hm' : n.at? l' = some m') (hp : l <+: l') : l' = l := by
  obtain ⟨rest, rfl⟩ := hp
  refine Classical.byContradiction fun hne ↦ ?_
  obtain ⟨es, hes⟩ := Node.exists_dir_of_at?_append hm' fun h ↦ hne (by rw [h, List.append_nil])
  rw [hm] at hes
  cases hes
  exact hk rfl

theorem chosen_file_iff {l l' : Location} {m : Node} {text : String} (hm : n.at? l = some m)
    (hk : m.kind ≠ .dir) (hkept : Kept e root l) :
    l <+: l' ∧ Chosen e root n l' text ↔
      l' = l ∧ stylesheet? (pathBelow root l) = some text := by
  rw [stylesheet?_eq_some_iff]
  constructor
  · rintro ⟨hp, ⟨m', hm', -⟩, htext, hmodule, -⟩
    obtain rfl := eq_of_prefix_of_not_dir hm hk hm' hp
    exact ⟨rfl, htext, hmodule⟩
  · rintro ⟨rfl, htext, hmodule⟩
    exact ⟨List.prefix_rfl, ⟨m, hm, hk⟩, htext, hmodule, hkept⟩

theorem lists_file {l : Location} {m : Node} (hm : n.at? l = some m) (hk : m.kind ≠ .dir)
    (hkept : Kept e root l) :
    Lists e root n (l <+: ·) ((stylesheet? (pathBelow root l)).toList.map (l, ·)) [] where
  found_sorted := by cases stylesheet? (pathBelow root l) <;> simp
  mem_found l' text := by
    rw [chosen_file_iff hm hk hkept]
    simp [eq_comm, and_comm]
  pruned_sorted := .nil
  mem_pruned l' := by
    simp only [List.not_mem_nil, false_iff]
    rintro ⟨hp, ⟨es, hes⟩, -⟩
    obtain rfl := eq_of_prefix_of_not_dir hm hk hes hp
    rw [hm] at hes
    cases hes
    exact hk rfl

theorem lists_pruned {l : Location} {es : List (Name × Node)} (hd : n.at? l = some (.dir es))
    (he : e.excludes (Text.lossy (pathBelow root l)) = true) (hkept : Kept e root l) :
    Lists e root n (l <+: ·) [] [l] where
  found_sorted := .nil
  mem_found l' text := by
    simp only [List.not_mem_nil, false_iff]
    rintro ⟨hp, ⟨m, hm, hk⟩, -, -, hkept'⟩
    by_cases hl : l = l'
    · subst hl
      rw [hd] at hm
      cases hm
      exact hk rfl
    · have := hkept' l hp hl
      rw [he] at this
      cases this
  pruned_sorted := List.pairwise_singleton ..
  mem_pruned l' := by
    rw [List.mem_singleton]
    constructor
    · rintro rfl
      exact ⟨List.prefix_rfl, ⟨es, hd⟩, he, hkept⟩
    · rintro ⟨hp, -, -, hkept'⟩
      refine Classical.byContradiction fun hl ↦ ?_
      have := hkept' l hp fun h ↦ hl h.symm
      rw [he] at this
      cases this

theorem lists_absent {l : Location} (hl : n.at? l = none) : Lists e root n (l <+: ·) [] [] := by
  have hnone : ∀ {l'}, l <+: l' → n.at? l' = none := by
    rintro _ ⟨rest, rfl⟩
    rw [Node.at?_append, hl]
    rfl
  refine ⟨.nil, fun l' text ↦ ?_, .nil, fun l' ↦ ?_⟩
  · simp only [List.not_mem_nil, false_iff]
    rintro ⟨hp, ⟨m, hm, -⟩, -⟩
    rw [hnone hp] at hm
    cases hm
  · simp only [List.not_mem_nil, false_iff]
    rintro ⟨hp, ⟨es, hes⟩, -⟩
    rw [hnone hp] at hes
    cases hes

theorem admits_of_chosen (g : Ground d root top n) {above : Location} {x : Name} {text : String}
    {r : WriteRequest} (hc : Chosen e root n (above ++ [x]) text) (hopen : Opened d root top above)
    (hr : r.target = Module.typingsPath text)
    (hdangling : ¬Disk.Dangling d (Text.encode (Module.typingsPath text))) :
    Admits d root top r := by
  obtain ⟨m, hm, -⟩ := hc.entry
  obtain ⟨gs, hgs⟩ := Node.exists_dir_of_at?_append hm (by simp)
  have hx : gs.lookup x = some m := by rw [← Node.at?_append_name hgs, hm]
  refine ⟨above, x, text, hopen, g.plain hgs hx, ?_, hc.text_eq, hr, by rwa [hr]⟩
  rw [List.append_assoc, g.at?_append, hm]
  simp

section Ground

variable (g : Ground d root top n)
  (hdangling : t.sink = .writer → ∀ l text, Chosen e root n l text →
    ¬Disk.Dangling d (Text.encode (Module.typingsPath text)))
include g hdangling

theorem walks_file {above : Location} {x : Name} {m : Node} (hm : n.at? (above ++ [x]) = some m)
    (hk : m.kind ≠ .dir) (hkept : Kept e root (above ++ [x])) (hopen : Opened d root top above) :
    Walks t e d root top n (above ++ [x] <+: ·) 1
      [.visit (pathBelow root (above ++ [x])) m.kind] := by
  intro later s fuel w answer last hfuel htame hreturns
  obtain ⟨fuel, rfl⟩ := Nat.exists_eq_succ_of_ne_zero (by omega : fuel ≠ 0)
  obtain ⟨p, w', hstep, hreturns⟩ := hreturns.step
  obtain ⟨target, hvisit, rfl⟩ := step_visit_file hk hstep
  obtain ⟨rfl, htargets, hkeep⟩ := visitFile_ok hvisit
  have htame' : Tame (Keeps d) (Admits d root top) w' := by
    refine hkeep _ _ (keeps_outlasts d root top) htame fun text r hsink hsheet hr ↦ ?_
    have hc := ((chosen_file_iff hm hk hkept).2 ⟨rfl, hsheet⟩).2
    exact admits_of_chosen g hc hopen hr (hdangling hsink _ text hc)
  refine ⟨_, [], fuel, w', lists_file hm hk hkept, Nat.le_refl _, htame', ?_, ?_⟩
  · rw [htargets]
    cases stylesheet? (pathBelow root (above ++ [x])) <;> rfl
  · cases hsheet : stylesheet? (pathBelow root (above ++ [x])) <;>
      simpa [hsheet] using hreturns

end Ground

theorem stylesheet?_made {l : Location} {x : Name} (hx : Disk.Plain x) :
    stylesheet? (pathBelow root (l ++ [x ++ ending])) = none := by
  refine Option.eq_none_iff_forall_ne_some.2 fun text htext ↦ ?_
  obtain ⟨hdecode, hmodule⟩ := stylesheet?_eq_some_iff.1 htext
  rw [isModule_eq_false_of_ending hx hdecode] at hmodule
  cases hmodule

theorem walks_made {above : Location} {x : Name} (hm : n.at? (above ++ [x ++ ending]) = none)
    (hx : Disk.Plain x) :
    Walks t e d root top n (above ++ [x ++ ending] <+: ·) 1
      [.visit (pathBelow root (above ++ [x ++ ending])) .file] := by
  intro later s fuel w answer last hfuel htame hreturns
  obtain ⟨fuel, rfl⟩ := Nat.exists_eq_succ_of_ne_zero (by omega : fuel ≠ 0)
  obtain ⟨p, w', hstep, hreturns⟩ := hreturns.step
  obtain ⟨target, hvisit, rfl⟩ := step_visit_file (by decide) hstep
  obtain ⟨rfl, htargets, hkeep⟩ := visitFile_ok hvisit
  have hsheet : stylesheet? (pathBelow root (above ++ [x ++ ending])) = none :=
    stylesheet?_made hx
  rw [hsheet] at htargets hreturns
  refine ⟨[], [], fuel, w', lists_absent hm, Nat.le_refl _, ?_, htargets, by simpa using hreturns⟩
  exact hkeep _ _ (keeps_outlasts d root top) htame fun text r _ hsome ↦ by simp [hsheet] at hsome

/-- An entry that a walk lists: it was there in the beginning, or the writer has made it. -/
def Listed (n : Node) (l : Location) (entry : Name × Disk.Kind) : Prop :=
  (∃ child, n.at? (l ++ [entry.1]) = some child ∧ entry.2 = child.kind) ∨
    n.at? (l ++ [entry.1]) = none ∧ entry.2 = .file ∧ ∃ x, Disk.Plain x ∧ entry.1 = x ++ ending

def visitsTo (root : Bytes) (l : Location) (entries : List (Name × Disk.Kind)) : List Task :=
  entries.map fun entry ↦ .visit (pathBelow root (l ++ [entry.1])) entry.2

theorem visits_eq (root : Bytes) (l : Location) (entries : List (Name × Disk.Kind)) :
    visits (pathBelow root l) entries =
      visitsTo root l (entries.mergeSort fun a b ↦ decide (a.1 ≤ b.1)) := by
  simp only [visits, visitsTo, pathBelow_append_name]

theorem entries_eq_of_mem_iff {entries entries' : List (Name × Disk.Kind)}
    (h : entries.Pairwise (·.1 < ·.1)) (h' : entries'.Pairwise (·.1 < ·.1))
    (hmem : ∀ entry, entry ∈ entries ↔ entry ∈ entries') : entries = entries' := by
  have : Std.Irrefl fun a b : Name × Disk.Kind ↦ a.1 < b.1 := ⟨fun a ↦ List.lt_irrefl a.1⟩
  have : Std.Antisymm fun a b : Name × Disk.Kind ↦ a.1 < b.1 :=
    ⟨fun a b hab hba ↦ absurd hba (List.lt_asymm hab)⟩
  exact h.eq_of_mem_iff h' hmem

theorem pairwise_mergeSort_names {entries : List (Name × Disk.Kind)}
    (hnodup : (entries.map (·.1)).Nodup) :
    (entries.mergeSort fun a b ↦ decide (a.1 ≤ b.1)).Pairwise (·.1 < ·.1) := by
  have hle : (entries.mergeSort fun a b ↦ decide (a.1 ≤ b.1)).Pairwise
      fun a b ↦ decide (a.1 ≤ b.1) = true :=
    List.pairwise_mergeSort
      (fun a b c hab hbc ↦ by simpa using List.le_trans (by simpa using hab) (by simpa using hbc))
      (fun a b ↦ by simpa using List.le_total a.1 b.1) entries
  have hperm := (List.mergeSort_perm entries fun a b ↦ decide (a.1 ≤ b.1)).map (·.1)
  have hne : (entries.mergeSort fun a b ↦ decide (a.1 ≤ b.1)).Pairwise fun a b ↦ a.1 ≠ b.1 :=
    List.pairwise_map.1 (hperm.nodup_iff.2 hnodup)
  exact hle.imp₂ (fun a b hle hne ↦ Std.lt_of_le_of_ne (by simpa using hle) hne) hne

/-- A way for tasks to go over parts of a tree at some cost that can be put together from visits.
What the walk itself has made is gone over at once. -/
structure Composes (root : Bytes) (n : Node)
    (goes : (Location → Prop) → Nat → List Task → Prop) : Prop where
  nil : goes (fun _ ↦ False) 0 []
  append {part part' : Location → Prop} {cost cost' : Nat} {tasks tasks' : List Task}
    (h : goes part cost tasks) (h' : goes part' cost' tasks')
    (hlt : ∀ l l', part l → part' l' → l < l') :
    goes (fun l ↦ part l ∨ part' l) (cost + cost') (tasks ++ tasks')
  made {above : Location} {x : Name} (hm : n.at? (above ++ [x ++ ending]) = none)
    (hx : Disk.Plain x) :
    goes (above ++ [x ++ ending] <+: ·) 1 [.visit (pathBelow root (above ++ [x ++ ending])) .file]

theorem Composes.entries {goes : (Location → Prop) → Nat → List Task → Prop}
    (hgoes : Composes root n goes) {l : Location} (entries : List (Name × Disk.Kind))
    (hlisted : ∀ entry ∈ entries, Listed n l entry) (hsorted : entries.Pairwise (·.1 < ·.1))
    (ih : ∀ name child, n.at? (l ++ [name]) = some child →
      goes (l ++ [name] <+: ·) (weight (some child))
        [.visit (pathBelow root (l ++ [name])) child.kind]) :
    goes (fun l' ↦ ∃ entry ∈ entries, l ++ [entry.1] <+: l')
      (entries.map fun entry ↦ weight (n.at? (l ++ [entry.1]))).sum (visitsTo root l entries) := by
  induction entries with
  | nil => simpa [visitsTo] using hgoes.nil
  | cons entry entries ihentries =>
    obtain ⟨hlt, hsorted⟩ := List.pairwise_cons.1 hsorted
    have hfirst : goes (l ++ [entry.1] <+: ·) (weight (n.at? (l ++ [entry.1])))
        [.visit (pathBelow root (l ++ [entry.1])) entry.2] := by
      obtain ⟨name, kind⟩ := entry
      rcases hlisted _ (List.mem_cons_self ..) with ⟨child, hchild, hkind⟩ | ⟨hnone, hkind, hx⟩
      · dsimp only at hchild hkind ⊢
        subst hkind
        rw [hchild]
        exact ih name child hchild
      · obtain ⟨x, hplain, hname⟩ := hx
        dsimp only at hnone hkind hname ⊢
        subst hkind hname
        rw [hnone]
        exact hgoes.made hnone hplain
    have hlater := ihentries (fun other hm ↦ hlisted other (List.mem_cons_of_mem _ hm)) hsorted
    simpa [visitsTo] using hgoes.append hfirst hlater (lt_of_entry hlt l)

theorem walks_composes : Composes root n (Walks t e d root top n) where
  nil := .nil
  append := .append
  made := walks_made

theorem listed_of_keeps (g : Ground d root top n) {d' : Disk} (hk : Keeps d d') {l : Location}
    {es es' : List (Name × Node)} (hd : n.at? l = some (.dir es))
    (hd' : d'.top.at? (top ++ l) = some (.dir es')) {name : Name} {m : Node}
    (hm : es'.lookup name = some m) :
    (∃ child, es.lookup name = some child ∧ m.kind = child.kind) ∨
      es.lookup name = none ∧ m.kind = .file ∧
        ∃ x child, es.lookup x = some child ∧ name = x ++ ending := by
  have hat : d.top.at? (top ++ l) = some (.dir es) := by rw [g.at?_append, hd]
  have hgrew := hk.grows.top (top ++ l ++ [name])
  rw [Node.at?_append_name hat, Node.at?_append_name hd', hm] at hgrew
  generalize es.lookup name = before at hgrew ⊢
  cases hgrew with
  | some ha => exact .inl ⟨_, rfl, ha.kind_eq⟩
  | made hbeside =>
    obtain ⟨above, x, hspot, hx⟩ := hbeside
    obtain ⟨rfl, hname⟩ := List.append_inj' hspot rfl
    rw [Node.at?_append_name hat] at hx
    obtain ⟨child, hchild⟩ := Option.ne_none_iff_exists'.1 hx
    exact .inr ⟨rfl, rfl, x, child, hchild, List.singleton_inj.1 hname⟩

theorem exists_name_of_prefix {l l' : Location} {es : List (Name × Node)} {m : Node}
    (hd : n.at? l = some (.dir es)) (hp : l <+: l') (hm : n.at? l' = some m) (hne : l' ≠ l) :
    ∃ name child, es.lookup name = some child ∧ l ++ [name] <+: l' := by
  obtain ⟨rest, rfl⟩ := hp
  have hrest : rest ≠ [] := fun h ↦ hne (by rw [h, List.append_nil])
  obtain ⟨name, rest, rfl⟩ := List.exists_cons_of_ne_nil hrest
  rw [Node.at?_append, hd, Option.bind_some, Node.at?_cons] at hm
  obtain ⟨child, hchild, -⟩ := Option.bind_eq_some_iff.1 hm
  exact ⟨name, child, hchild, rest, by simp⟩

theorem exists_listed (g : Ground d root top n) {d' : Disk} (hk : Keeps d d') {l : Location}
    {es es' : List (Name × Node)} (hd : n.at? l = some (.dir es))
    (hd' : d'.top.at? (top ++ l) = some (.dir es')) {name : Name} {child : Node}
    (hm : es.lookup name = some child) : ∃ m, es'.lookup name = some m := by
  have hat : d.top.at? (top ++ l) = some (.dir es) := by rw [g.at?_append, hd]
  have hgrew := hk.grows.top (top ++ l ++ [name])
  rw [Node.at?_append_name hat, Node.at?_append_name hd', hm] at hgrew
  generalize es'.lookup name = after at hgrew ⊢
  cases hgrew with
  | some _ => exact ⟨_, rfl⟩

theorem part_iff {l l' : Location} {es : List (Name × Node)} {names : List Name} {m : Node}
    (hd : n.at? l = some (.dir es))
    (hnames : ∀ name child, es.lookup name = some child → name ∈ names)
    (hm : n.at? l' = some m) (hne : l' ≠ l) :
    (∃ name ∈ names, l ++ [name] <+: l') ↔ l <+: l' := by
  constructor
  · rintro ⟨name, -, hp⟩
    exact (List.prefix_append l [name]).trans hp
  · intro hp
    obtain ⟨name, child, hchild, hp⟩ := exists_name_of_prefix hd hp hm hne
    exact ⟨name, hnames name child hchild, hp⟩

/-- What a directory lists while the walk goes on, in the order of the names: `es` was there in the
beginning and `es'` is there now. -/
structure Listing (n : Node) (l : Location) (es es' : List (Name × Node))
    (entries : List (Name × Disk.Kind)) : Prop where
  ordered : entries.Pairwise (·.1 < ·.1)
  mem_iff (entry : Name × Disk.Kind) :
    entry ∈ entries ↔ ∃ m, es'.lookup entry.1 = some m ∧ entry.2 = m.kind
  listed (entry : Name × Disk.Kind) : entry ∈ entries → Listed n l entry
  sum_le : (entries.map fun entry ↦ weight (n.at? (l ++ [entry.1]))).sum ≤
    3 * Node.sizeOfEntries es

theorem exists_listing (g : Ground d root top n) {d' : Disk} (hk : Keeps d d') {l : Location}
    {es es' : List (Name × Node)} (hd : n.at? l = some (.dir es))
    (hd' : d'.top.at? (top ++ l) = some (.dir es')) :
    ∃ entries, visits (pathBelow root l) (es'.map fun (name, m) ↦ (name, m.kind)) =
      visitsTo root l entries ∧ Listing n l es es' entries := by
  have hlookup : ∀ name, n.at? (l ++ [name]) = es.lookup name := Node.at?_append_name hd
  have hnodup : (es.map (·.1)).Nodup := (g.wellFormed _ es (by rw [g.at?_append, hd])).1
  have hnodup' : (es'.map (·.1)).Nodup := (hk.wellFormed _ es' hd').1
  have hnames : (es'.map fun (name, m) ↦ (name, m.kind)).map (·.1) = es'.map (·.1) := by
    rw [List.map_map]
    rfl
  have hperm := List.mergeSort_perm (es'.map fun (name, m) ↦ (name, m.kind))
    fun a b ↦ decide (a.1 ≤ b.1)
  have hordered := pairwise_mergeSort_names (hnames ▸ hnodup')
  refine ⟨_, visits_eq root l _, ?_⟩
  generalize (es'.map fun (name, m) ↦ (name, m.kind)).mergeSort
    (fun a b ↦ decide (a.1 ≤ b.1)) = entries at hperm hordered ⊢
  have hmem : ∀ entry, entry ∈ entries ↔ ∃ m, es'.lookup entry.1 = some m ∧ entry.2 = m.kind := by
    rintro ⟨name, kind⟩
    rw [hperm.mem_iff, List.mem_map]
    constructor
    · rintro ⟨⟨_, m⟩, hm, heq⟩
      cases heq
      exact ⟨m, Node.lookup_of_mem hnodup' hm, rfl⟩
    · rintro ⟨m, hm, rfl⟩
      exact ⟨_, Node.mem_of_lookup hm, rfl⟩
  refine ⟨hordered, hmem, fun entry hentry ↦ ?_, ?_⟩
  · obtain ⟨m, hm, hkind⟩ := (hmem entry).1 hentry
    rcases listed_of_keeps g hk hd hd' hm with
      ⟨child, hchild, hkind'⟩ | ⟨hnone, hkind', x, child, hx, hname⟩
    · exact .inl ⟨child, by rw [hlookup, hchild], hkind.trans hkind'⟩
    · exact .inr ⟨by rw [hlookup, hnone], hkind.trans hkind', x, g.plain hd hx, hname⟩
  · have hsum : (entries.map fun entry ↦ weight (n.at? (l ++ [entry.1]))) =
        (entries.map (·.1)).map fun name ↦ weight (es.lookup name) := by
      simp only [hlookup, List.map_map, Function.comp_def]
    rw [hsum]
    refine sum_weight_le hnodup (((hperm.map (·.1)).nodup_iff).2 (hnames ▸ hnodup')) ending ?_
    intro name hname hnone
    obtain ⟨entry, hentry, rfl⟩ := List.mem_map.1 hname
    obtain ⟨m, hm, -⟩ := (hmem entry).1 hentry
    rcases listed_of_keeps g hk hd hd' hm with ⟨child, hchild, -⟩ | ⟨-, -, x, child, hx, hname⟩
    · rw [hnone] at hchild
      cases hchild
    · exact ⟨x, Node.mem_names_iff.2 ⟨child, hx⟩, hname⟩

theorem walks_listing (g : Ground d root top n) {d' : Disk} (hk : Keeps d d') {l : Location}
    {es es' : List (Name × Node)} (hd : n.at? l = some (.dir es))
    (hd' : d'.top.at? (top ++ l) = some (.dir es'))
    (he : e.excludes (Text.lossy (pathBelow root l)) = false)
    (ih : ∀ name child, n.at? (l ++ [name]) = some child →
      Walks t e d root top n (l ++ [name] <+: ·) (weight (some child))
        [.visit (pathBelow root (l ++ [name])) child.kind]) :
    ∃ cost, cost ≤ 3 * Node.sizeOfEntries es ∧ Walks t e d root top n (l <+: ·) cost
      (visits (pathBelow root l) (es'.map fun (name, m) ↦ (name, m.kind))) := by
  obtain ⟨entries, hvisits, hlisting⟩ := exists_listing g hk hd hd'
  have hwalks := walks_composes.entries entries hlisting.listed hlisting.ordered ih
  have hall : ∀ name child, es.lookup name = some child → name ∈ entries.map (·.1) := by
    intro name child hchild
    obtain ⟨m, hm⟩ := exists_listed g hk hd hd' hchild
    exact List.mem_map_of_mem (f := (·.1)) ((hlisting.mem_iff (name, m.kind)).2 ⟨m, hm, rfl⟩)
  rw [hvisits]
  refine ⟨_, hlisting.sum_le, hwalks.congr (fun l' text hc ↦ ?_) fun l' hp ↦ ?_⟩
  · obtain ⟨m, hm, hkind⟩ := hc.entry
    have hne : l' ≠ l := by
      rintro rfl
      rw [hd] at hm
      cases hm
      exact hkind rfl
    rw [← part_iff hd hall hm hne]
    simp
  · obtain ⟨fs, hfs⟩ := hp.dir
    have hne : l' ≠ l := by
      rintro rfl
      rw [hp.excluded] at he
      cases he
    rw [← part_iff hd hall hfs hne]
    simp

theorem walks_dir (g : Ground d root top n) {l : Location} {es : List (Name × Node)}
    (hd : n.at? l = some (.dir es)) (hkept : Kept e root l)
    (ih : Opened d root top l → ∀ name child, n.at? (l ++ [name]) = some child →
      Kept e root (l ++ [name]) →
      Walks t e d root top n (l ++ [name] <+: ·) (weight (some child))
        [.visit (pathBelow root (l ++ [name])) child.kind]) :
    Walks t e d root top n (l <+: ·) (weight (some (.dir es)))
      [.visit (pathBelow root l) .dir] := by
  intro later s fuel w answer last hfuel htame hreturns
  have hcost : weight (some (.dir es)) = 2 + 3 * Node.sizeOfEntries es := by
    simp only [weight, Node.size]
    omega
  rw [hcost] at hfuel ⊢
  obtain ⟨fuel, rfl⟩ := Nat.exists_eq_add_of_le' (by omega : 2 ≤ fuel)
  obtain ⟨p, w₁, hstep, hreturns⟩ := hreturns.step
  obtain ⟨⟨log, rfl⟩, rfl⟩ := step_visit_dir hstep
  have htame₁ : Tame (Keeps d) (Admits d root top) { w with log } := ⟨htame.disk, htame.queue⟩
  cases he : e.excludes (Text.lossy (pathBelow root l)) with
  | true =>
    rw [if_pos he] at hreturns
    refine ⟨[], [l], fuel + 1, _, lists_pruned hd he hkept, by omega, htame₁, ?_, ?_⟩
    · rw [List.map_nil, List.append_nil]
    · simpa using hreturns
  | false =>
    rw [if_neg (by simp [he])] at hreturns
    obtain ⟨p, w₂, hstep, hreturns⟩ := hreturns.step
    obtain ⟨rfl, entries, hlist, rfl⟩ := step_enter hstep
    have htame₂ := htame₁.pause (keeps_outlasts d root top)
    obtain ⟨location, es', hlookup, -, rfl⟩ := Disk.list_eq_ok_iff.1 hlist
    obtain ⟨hopen, rfl⟩ := g.opened htame₂.disk hd hlookup
    have hd' := (Disk.lookup_eq_ok_iff.1 hlookup).2.at?_eq
    obtain ⟨cost, hle, hwalks⟩ := walks_listing g htame₂.disk hd hd' he fun name child hm ↦
      ih ⟨es, hopen⟩ name child hm (hkept.append_name he name)
    obtain ⟨found, pruned, fuel', w', hlists, hfuel', htame', htargets, hreturns'⟩ :=
      hwalks later s fuel _ answer last (by omega) htame₂ hreturns
    refine ⟨found, pruned, fuel', w', hlists, by omega, htame', ?_, hreturns'⟩
    rw [htargets, World.calls_pause]

theorem size_lt_of_lookup {es : List (Name × Node)} {name : Name} {child : Node}
    (h : es.lookup name = some child) : child.size < (Node.dir es).size := by
  have hle : child.size ≤ Node.sizeOfEntries es := by
    have hmem := Node.mem_of_lookup h
    clear h
    induction es with
    | nil => cases hmem
    | cons entry es ih =>
      rw [Node.sizeOfEntries]
      rcases List.mem_cons.1 hmem with rfl | hmem
      · exact Nat.le_add_right ..
      · exact Nat.le_trans (ih hmem) (Nat.le_add_left ..)
  rw [Node.size]
  omega

theorem size_le_of_at? {m k : Node} {l : Location} (h : m.at? l = some k) : k.size ≤ m.size := by
  induction l generalizing m with
  | nil =>
    rw [Node.at?_nil] at h
    cases h
    exact Nat.le_refl _
  | cons name rest ih =>
    rw [Node.at?_cons] at h
    obtain ⟨child, hchild, hk⟩ := Option.bind_eq_some_iff.1 h
    cases m with
    | file _ _ | link _ => cases hchild
    | dir es => exact Nat.le_trans (ih hk) (Nat.le_of_lt (size_lt_of_lookup hchild))

/-- What holds of a directory where it holds of its entries, and of everything else, holds of any
entry of a tree whose root is a directory. -/
theorem entry_induction {motive : Location → Node → Prop}
    (dir : ∀ {l : Location} {es : List (Name × Node)}, n.at? l = some (.dir es) → Kept e root l →
      (∀ above x, l = above ++ [x] → Opened d root top above) →
      (Opened d root top l → ∀ name child, n.at? (l ++ [name]) = some child →
        Kept e root (l ++ [name]) → motive (l ++ [name]) child) →
      motive l (.dir es))
    (file : ∀ {above : Location} {x : Name} {m : Node}, n.at? (above ++ [x]) = some m →
      m.kind ≠ .dir → Kept e root (above ++ [x]) → Opened d root top above →
      motive (above ++ [x]) m)
    {m : Node} {l : Location} (hm : n.at? l = some m) (hkept : Kept e root l)
    (habove : ∀ above x, l = above ++ [x] → Opened d root top above)
    (hroot : m.kind = .dir ∨ l ≠ []) : motive l m := by
  induction hsize : m.size using Nat.strongRecOn generalizing m l with
  | ind size ih =>
    cases m with
    | dir es =>
      refine dir hm hkept habove fun hopen name child hchild hkept' ↦ ?_
      have hlookup : es.lookup name = some child := by rw [← Node.at?_append_name hm, hchild]
      refine ih child.size (hsize ▸ size_lt_of_lookup hlookup) hchild hkept' ?_ (by simp) rfl
      intro above x hx
      rw [(List.append_inj' hx rfl).1.symm]
      exact hopen
    | file _ _ | link _ =>
      have hne : l ≠ [] := by simpa [Node.kind] using hroot
      obtain ⟨above, x, rfl⟩ := (List.eq_nil_or_concat l).resolve_left hne
      rw [List.concat_eq_append] at *
      exact file hm (by simp [Node.kind]) hkept (habove above x rfl)

theorem walks_entry (g : Ground d root top n)
    (hdangling : t.sink = .writer → ∀ l text, Chosen e root n l text →
      ¬Disk.Dangling d (Text.encode (Module.typingsPath text)))
    {m : Node} {l : Location} (hm : n.at? l = some m) (hkept : Kept e root l)
    (habove : ∀ above x, l = above ++ [x] → Opened d root top above)
    (hroot : m.kind = .dir ∨ l ≠ []) :
    Walks t e d root top n (l <+: ·) (weight (some m)) [.visit (pathBelow root l) m.kind] :=
  entry_induction (motive := fun l m ↦
      Walks t e d root top n (l <+: ·) (weight (some m)) [.visit (pathBelow root l) m.kind])
    (fun hm hkept _ ih ↦ walks_dir g hm hkept ih)
    (fun {_ _ m} hm hk hkept hopen ↦ (walks_file g hdangling hm hk hkept hopen).mono (by
      have := size_pos m
      simp only [weight]
      omega))
    hm hkept habove hroot

end StyleTypings.Walk
