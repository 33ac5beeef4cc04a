import StyleTypings.Proofs.Walk.Shown

namespace StyleTypings.Walk

open Disk (Location Name Node Grows)
open Text (Bytes encode)

structure Errand where
  location : Location
  kind? : Option Disk.Kind
deriving DecidableEq, Repr

namespace Errand

def task (root : Bytes) (x : Errand) : Task :=
  match x.kind? with
  | some kind => .visit (pathBelow root x.location) kind
  | none => .enter (pathBelow root x.location)

def visits (l : Location) (entries : List (Name × Disk.Kind)) : List Errand :=
  entries.map fun (name, kind) ↦ ⟨l ++ [name], some kind⟩

/-- A location that a walk may come to: the root, or an entry of a directory that can be listed. -/
inductive Reached (d : Disk) (root : Bytes) (top : Location) : Location → Prop
  | root : Reached d root top []
  | entry {above : Location} {x : Name} (hopen : Opened d root top above) (hx : Disk.Plain x) :
      Reached d root top (above ++ [x])

/-- A task that a walk may come to. `d` is the disk that the walk begins on. -/
inductive Sent (e : Exclusion) (d : Disk) (root : Bytes) (top : Location) : Errand → Prop
  | visit {l : Location} {kind : Disk.Kind} (hl : Reached d root top l) (hkept : Kept e root l)
      (hdir : kind = .dir ↔ ∃ es, d.top.at? (top ++ l) = some (.dir es)) :
      Sent e d root top ⟨l, some kind⟩
  | list {l : Location} {es : List (Name × Node)} (hl : Reached d root top l)
      (hkept : Kept e root l) (hd : d.top.at? (top ++ l) = some (.dir es))
      (he : e.excludes (Text.lossy (pathBelow root l)) = false) : Sent e d root top ⟨l, none⟩

inductive Splits : Errand → List Errand → Prop
  | done (l : Location) (kind : Disk.Kind) : Splits ⟨l, some kind⟩ []
  | list (l : Location) : Splits ⟨l, some .dir⟩ [⟨l, none⟩]
  | entries (l : Location) {entries : List (Name × Disk.Kind)}
      (hnodup : (entries.map (·.1)).Nodup) : Splits ⟨l, none⟩ (visits l entries)

variable {t : Toolchain} {e : Exclusion} {d d' : Disk} {root : Bytes} {top : Location} {n : Node}
  {new : Location → Prop} {x : Errand} {l : Location}

theorem opened_of_list (g : Ground d root top n) (hg : Grows new d d') {es : List (Name × Node)}
    (hd : d.top.at? (top ++ l) = some (.dir es)) {entries : List (Name × Disk.Kind)}
    (h : d'.list (pathBelow root l) = .ok entries) :
    Opened d root top l ∧ ∃ es', d'.top.at? (top ++ l) = some (.dir es') ∧
      d'.lookup (pathBelow root l) true = .ok (.found (top ++ l) (.dir es')) ∧
      entries = es'.map fun (name, m) ↦ (name, m.kind) := by
  obtain ⟨location, es', hl, -, rfl⟩ := Disk.list_eq_ok_iff.1 h
  obtain ⟨dest, hmoved, hdest⟩ := hg.lookup_back hl
  rw [g.at?_append] at hd
  cases g.dest_eq hd hdest
  cases hmoved with
  | found hat => exact ⟨⟨es, hdest⟩, es', hat, hl, rfl⟩

theorem exists_visits (root : Bytes) (l : Location) {es : List (Name × Node)}
    (hnodup : (es.map (·.1)).Nodup) :
    ∃ entries : List (Name × Disk.Kind), entries.Pairwise (·.1 < ·.1) ∧
      (∀ name kind, (name, kind) ∈ entries ↔ ∃ m, es.lookup name = some m ∧ kind = m.kind) ∧
      Walk.visits (pathBelow root l) (es.map fun (name, m) ↦ (name, m.kind)) =
        (visits l entries).map (task root) := by
  have hperm := List.mergeSort_perm (es.map fun (name, m) ↦ (name, m.kind))
    fun a b ↦ decide (a.1 ≤ b.1)
  have hnames : ((es.map fun (name, m) ↦ (name, m.kind)).map (·.1)).Nodup := by
    simpa [Function.comp_def] using hnodup
  refine ⟨_, pairwise_mergeSort_names hnames, fun name kind ↦ ?_, ?_⟩
  · rw [hperm.mem_iff, List.mem_map]
    constructor
    · rintro ⟨⟨_, m⟩, hm, heq⟩
      cases heq
      exact ⟨m, Node.lookup_of_mem hnodup hm, rfl⟩
    · rintro ⟨m, hm, rfl⟩
      exact ⟨_, Node.mem_of_lookup hm, rfl⟩
  · rw [visits_eq, visitsTo, visits, List.map_map]
    rfl

theorem visits_congr {es es' : List (Name × Node)} (hnodup : (es.map (·.1)).Nodup)
    (hnodup' : (es'.map (·.1)).Nodup)
    (h : ∀ name, (es'.lookup name).map Node.kind = (es.lookup name).map Node.kind) :
    Walk.visits (pathBelow root l) (es'.map fun (name, m) ↦ (name, m.kind)) =
      Walk.visits (pathBelow root l) (es.map fun (name, m) ↦ (name, m.kind)) := by
  obtain ⟨entries, hsorted, hmem, hvisits⟩ := exists_visits root l hnodup
  obtain ⟨entries', hsorted', hmem', hvisits'⟩ := exists_visits root l hnodup'
  rw [hvisits, hvisits', entries_eq_of_mem_iff hsorted' hsorted fun (name, kind) ↦ ?_]
  have hkind (es : List (Name × Node)) : (∃ m, es.lookup name = some m ∧ kind = m.kind) ↔
      (es.lookup name).map Node.kind = some kind := by
    simp [Option.map_eq_some_iff, eq_comm]
  rw [hmem, hmem', hkind, hkind, h]

structure Brings (e : Exclusion) (d : Disk) (root : Bytes) (top : Location) (x : Errand)
    (d' : Disk) (xs : List Errand) : Prop where
  splits : x.Splits xs
  sent (y : Errand) : y ∈ xs → y.Sent e d root top
  present (y : Errand) : y ∈ xs → d'.top.at? (top ++ y.location) ≠ none

theorem brings_list (g : Ground d root top n) (hg : Grows new d d') (hwf : d'.top.WellFormed)
    {es : List (Name × Node)} (hd : d.top.at? (top ++ l) = some (.dir es)) (hkept : Kept e root l)
    (he : e.excludes (Text.lossy (pathBelow root l)) = false)
    {entries : List (Name × Disk.Kind)} (h : d'.list (pathBelow root l) = .ok entries) :
    ∃ xs, Walk.visits (pathBelow root l) entries = xs.map (task root) ∧
      Brings e d root top ⟨l, none⟩ d' xs := by
  obtain ⟨hopen, es', hd', -, rfl⟩ := opened_of_list g hg hd h
  obtain ⟨hnodup, hplain⟩ := hwf _ es' hd'
  obtain ⟨entries, hsorted, hmem, hvisits⟩ := exists_visits root l hnodup
  have hnames : (entries.map (·.1)).Nodup :=
    List.pairwise_map.2 (hsorted.imp Std.ne_of_lt)
  refine ⟨_, hvisits, .entries l hnames, fun y hy ↦ ?_, fun y hy ↦ ?_⟩
  · obtain ⟨⟨name, kind⟩, hm, rfl⟩ := List.mem_map.1 hy
    obtain ⟨m, hlookup, rfl⟩ := (hmem name kind).1 hm
    refine .visit (.entry hopen (hplain name (Node.mem_names_iff.2 ⟨m, hlookup⟩)))
      (hkept.append_name he name) ?_
    rw [← List.append_assoc, (hg.top _).dir_iff, Node.at?_append_name hd', hlookup]
    cases m <;> simp [Node.kind]
  · obtain ⟨⟨name, kind⟩, hm, rfl⟩ := List.mem_map.1 hy
    obtain ⟨m, hlookup, -⟩ := (hmem name kind).1 hm
    rw [← List.append_assoc, Node.at?_append_name hd', hlookup]
    simp

theorem brings_dir (hg : Grows new d d') (hl : Reached d root top l) {es : List (Name × Node)}
    (hd : d.top.at? (top ++ l) = some (.dir es)) (hkept : Kept e root l) {gain : Gain}
    (h : (Task.visit (pathBelow root l) .dir).gain t e d' = .ok gain) :
    ∃ xs, gain.tasks = xs.map (task root) ∧ Brings e d root top ⟨l, some .dir⟩ d' xs := by
  simp only [Task.gain] at h
  split at h
  · cases h
    exact ⟨[], rfl, .done l .dir, by simp, by simp⟩
  next he =>
    cases h
    obtain ⟨es', hd'⟩ := (hg.top _).dir_iff.1 ⟨es, hd⟩
    exact ⟨[⟨l, none⟩], rfl, .list l, by simpa using .list hl hkept hd (by simpa using he),
      by simp [hd']⟩

theorem Sent.exists_brings (h : Sent e d root top x) (g : Ground d root top n)
    (hg : Grows new d d') (hwf : d'.top.WellFormed) {gain : Gain}
    (hgain : (x.task root).gain t e d' = .ok gain) :
    ∃ xs, gain.tasks = xs.map (task root) ∧ Brings e d root top x d' xs := by
  cases h with
  | @visit l kind hl hkept hdir =>
    by_cases hk : kind = .dir
    · obtain ⟨es, hd⟩ := hdir.1 hk
      subst hk
      exact brings_dir hg hl hd hkept hgain
    · exact ⟨[], tasks_of_gain_file hk hgain, .done _ kind, by simp, by simp⟩
  | list hl hkept hd he =>
    simp only [task, Task.gain] at hgain
    split at hgain
    · cases hgain
    next entries hlist =>
      cases hgain
      exact brings_list g hg hwf hd hkept he hlist

end Errand
end StyleTypings.Walk
