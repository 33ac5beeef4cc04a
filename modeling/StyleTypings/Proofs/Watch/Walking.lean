import StyleTypings.Proofs.Walk.Visits
import StyleTypings.Proofs.Watch.Upkeep

namespace StyleTypings.Watch

open Disk (Location Name Node)
open Text (Bytes encode)
open Walk (Chosen Keeps Kept Progress Task pathBelow stylesheet?)
open World (Serves Steady)

variable {t : Toolchain} {e : Exclusion} {d : Disk} {root : Bytes} {top : Location} {n : Node}
  {text : String} {w w' : World} {task : Task} {tasks later : List Task} {l : Location}

inductive Lies (e : Exclusion) (root : Bytes) (n : Node) : Location → Task → Prop
  | visit {l : Location} {m : Node} (h : n.at? l = some m) :
      Lies e root n l (.visit (pathBelow root l) m.kind)
  | enter {l : Location} {es : List (Name × Node)} (h : n.at? l = some (.dir es))
      (he : e.excludes (Text.lossy (pathBelow root l)) = false) :
      Lies e root n l (.enter (pathBelow root l))

theorem Lies.of_visit {path : Bytes} {kind : Disk.Kind} (h : Lies e root n l (.visit path kind)) :
    path = pathBelow root l ∧ ∃ m, n.at? l = some m ∧ kind = m.kind := by
  cases h with
  | visit hm => exact ⟨rfl, _, hm, rfl⟩

theorem Lies.of_enter {path : Bytes} (h : Lies e root n l (.enter path)) :
    path = pathBelow root l ∧ e.excludes (Text.lossy path) = false ∧
      ∃ es, n.at? l = some (.dir es) := by
  cases h with
  | enter hd he => exact ⟨rfl, he, _, hd⟩

/-- A task at a location that is not excluded, or a visit without consequences. -/
inductive Sound (d : Disk) (e : Exclusion) (root : Bytes) (n : Node) (task : Task) : Prop
  | lies {l : Location} (h : Lies e root n l task) (hk : Kept e root l)
  | idle {path : Bytes} {kind : Disk.Kind} (h : task = .visit path kind) (hk : kind ≠ .dir)
      (hp : Proper d e root n path)

def Covered (e : Exclusion) (root : Bytes) (n : Node) (tasks : List Task) (l : Location) : Prop :=
  ∃ task ∈ tasks, ∃ l', Lies e root n l' task ∧ l' <+: l

theorem Covered.append (h : Covered e root n later l) (tasks : List Task) :
    Covered e root n (tasks ++ later) l := by
  obtain ⟨task, hm, hlies⟩ := h
  exact ⟨task, List.mem_append_right _ hm, hlies⟩

theorem covered_cons_iff : Covered e root n (task :: later) l ↔
    (∃ l', Lies e root n l' task ∧ l' <+: l) ∨ Covered e root n later l := by
  simp [Covered]

theorem Sound.proper {path : Bytes} {kind : Disk.Kind}
    (h : Sound d e root n (.visit path kind)) (hk : kind ≠ .dir) : Proper d e root n path := by
  cases h with
  | idle h _ hp =>
    cases h
    exact hp
  | @lies l h hkept =>
    obtain ⟨rfl, m, hm, rfl⟩ := h.of_visit
    intro other hsheet _
    obtain ⟨htext, hmodule⟩ := Walk.stylesheet?_eq_some_iff.1 hsheet
    exact ⟨l, ⟨m, hm, hk⟩, htext, hmodule, hkept⟩

theorem proper_of_made {x : Name} (hx : Disk.Plain x) :
    Proper d e root n (pathBelow root (l ++ [x ++ Walk.ending])) := by
  intro other hsheet _
  obtain ⟨htext, hmodule⟩ := Walk.stylesheet?_eq_some_iff.1 hsheet
  rw [Walk.isModule_eq_false_of_ending hx htext] at hmodule
  cases hmodule

theorem mem_visits_iff {es' : List (Name × Node)} (hnodup : (es'.map (·.1)).Nodup) {l : Location} :
    task ∈ Walk.visits (pathBelow root l) (es'.map fun (name, m) ↦ (name, m.kind)) ↔
      ∃ name m, es'.lookup name = some m ∧ task = .visit (pathBelow root (l ++ [name])) m.kind := by
  rw [Walk.visits_eq, Walk.visitsTo, List.mem_map]
  constructor
  · rintro ⟨entry, hm, rfl⟩
    obtain ⟨⟨name, m⟩, hmem, rfl⟩ := List.mem_map.1 ((List.mergeSort_perm _ _).mem_iff.1 hm)
    exact ⟨name, m, Node.lookup_of_mem hnodup hmem, rfl⟩
  · rintro ⟨name, m, hm, rfl⟩
    refine ⟨(name, m.kind), (List.mergeSort_perm _ _).mem_iff.2 ?_, rfl⟩
    exact List.mem_map.2 ⟨(name, m), Node.mem_of_lookup hm, rfl⟩

section Listing

variable (g : Walk.Ground d root top n) {d' : Disk} (hk : Keeps d d') {l : Location}
  {es es' : List (Name × Node)} (hd : n.at? l = some (.dir es))
  (hd' : d'.top.at? (top ++ l) = some (.dir es'))
include g hk hd hd'

theorem sound_of_mem_visits (hkept : Kept e root l)
    (he : e.excludes (Text.lossy (pathBelow root l)) = false)
    (hm : task ∈ Walk.visits (pathBelow root l) (es'.map fun (name, m) ↦ (name, m.kind))) :
    Sound d e root n task := by
  obtain ⟨name, m, hm', rfl⟩ := (mem_visits_iff (hk.wellFormed _ es' hd').1).1 hm
  rcases Walk.listed_of_keeps g hk hd hd' hm' with
    ⟨child, hchild, hkind⟩ | ⟨-, hkind, x, child, hx, rfl⟩
  · rw [hkind]
    refine .lies (.visit ?_) (hkept.append_name he name)
    rw [Node.at?_append_name hd, hchild]
  · exact .idle rfl (by simp [hkind]) (proper_of_made (g.plain hd hx))

theorem covered_visits {l' : Location} {m : Node} (hm : n.at? l' = some m) (hp : l <+: l')
    (hne : l' ≠ l) :
    Covered e root n
      (Walk.visits (pathBelow root l) (es'.map fun (name, m) ↦ (name, m.kind))) l' := by
  obtain ⟨name, child, hchild, hp'⟩ := Walk.exists_name_of_prefix hd hp hm hne
  obtain ⟨m', hm'⟩ := Walk.exists_listed g hk hd hd' hchild
  rcases Walk.listed_of_keeps g hk hd hd' hm' with ⟨child', hchild', hkind⟩ | ⟨hnone, -⟩
  · refine ⟨_, (mem_visits_iff (hk.wellFormed _ es' hd').1).2 ⟨name, m', hm', rfl⟩, l ++ [name],
      ?_, hp'⟩
    rw [hkind]
    refine .visit ?_
    rw [Node.at?_append_name hd, hchild']
  · rw [hchild] at hnone
    cases hnone

end Listing

theorem Setting.start_cases (g : Setting d e root top n) (h : Walk.start d root = .ok tasks) :
    tasks = [.visit root .dir] ∨ tasks = [.visit root .link, .enter root] := by
  have hnode : d.node root true = .ok n := by rw [Disk.node, g.rooted]
  have hdir := g.directory
  unfold Walk.start at h
  split at h
  · cases h
  next =>
    rw [hnode] at h
    cases n with
    | dir es =>
      cases h
      exact .inr rfl
    | file _ _ | link _ => cases hdir
  next m hlink hfirst =>
    cases h
    unfold Disk.node at hfirst
    split at hfirst
    next location m' hl =>
      cases hfirst
      obtain ⟨hfollowable, hleads⟩ := Disk.lookup_eq_ok_iff.1 hl
      have hk : m.kind ≠ .link := by
        cases m with
        | link target => exact absurd rfl (hlink target)
        | file _ _ | dir _ => simp [Node.kind]
      have hrooted := Disk.lookup_eq_ok_iff.2 ⟨hfollowable, hleads.followLast_true hk⟩
      rw [g.rooted] at hrooted
      cases hrooted
      rw [hdir]
      exact .inl rfl
    · cases hfirst
    · cases hfirst

/-- What a task of the walk does to the typings of a stylesheet. -/
structure Advances (t : Toolchain) (d : Disk) (e : Exclusion) (root : Bytes) (n : Node)
    (text : String) (l : Location) (task : Task) (later : List Task) (w : World)
    (tasks : List Task) (w' : World) : Prop where
  steady : Steady (Keeps d) (Wanted e root n) w'
  sound (task : Task) : task ∈ tasks → Sound d e root n task
  covered : Covered e root n (task :: later) l →
    encode text ∈ visitedBy task ∨ Covered e root n tasks l
  current : Current t text w ∨ encode text ∈ visitedBy task → Current t text w'

section Setting

variable (hf : Functional t) (hsink : t.sink = .writer) (g : Setting d e root top n)
  (ha : Apart d e root n text) (hc : Chosen e root n l text) {s : Summary} {p : Progress}
include hf hsink g ha hc

omit hsink in
theorem enter_advances {path : Bytes} (hst : Steady (Keeps d) (Wanted e root n) w)
    (hfirst : Sound d e root n (.enter path)) (hlater : ∀ task ∈ later, Sound d e root n task)
    (h : (Walk.step t e ⟨.enter path :: later, s⟩).run w = (.ok p, w')) :
    Advances t d e root n text l (.enter path) later w p.tasks w' := by
  obtain ⟨m, hm, hk⟩ := hc.entry
  obtain ⟨rfl, entries, hlist, rfl⟩ := Walk.step_enter h
  obtain ⟨hst', hholds⟩ := hst.pause (g.serves ha)
  obtain ⟨location, es', hlookup, -, rfl⟩ := Disk.list_eq_ok_iff.1 hlist
  have hd' := (Disk.lookup_eq_ok_iff.1 hlookup).2.at?_eq
  refine ⟨hst', ?_, ?_, fun hcur ↦ (hcur.resolve_right (by simp [visitedBy])).of_holds hf hholds⟩
  · intro task hmem
    rcases List.mem_append.1 hmem with hmem | hmem
    · cases hfirst with
      | idle h => cases h
      | lies h hkept =>
        obtain ⟨rfl, he, es, hd⟩ := h.of_enter
        obtain ⟨-, rfl⟩ := g.toGround.opened hst'.disk hd hlookup
        exact sound_of_mem_visits g.toGround hst'.disk hd hd' hkept he hmem
    · exact hlater task hmem
  · intro hcovered
    right
    rcases covered_cons_iff.1 hcovered with ⟨l', hlies, hp⟩ | hcovered
    · obtain ⟨rfl, he, es, hd⟩ := hlies.of_enter
      obtain ⟨-, rfl⟩ := g.toGround.opened hst'.disk hd hlookup
      have hne : l ≠ l' := by
        rintro rfl
        rw [hm] at hd
        cases hd
        exact hk rfl
      obtain ⟨task, hmem, hrest⟩ := covered_visits (e := e) g.toGround hst'.disk hd hd' hm hp hne
      exact ⟨task, List.mem_append_left _ hmem, hrest⟩
    · exact hcovered.append _

omit hsink g ha in
theorem visit_dir_advances {path : Bytes} (hst : Steady (Keeps d) (Wanted e root n) w)
    (hfirst : Sound d e root n (.visit path .dir)) (hlater : ∀ task ∈ later, Sound d e root n task)
    (h : (Walk.step t e ⟨.visit path .dir :: later, s⟩).run w = (.ok p, w')) :
    Advances t d e root n text l (.visit path .dir) later w p.tasks w' := by
  obtain ⟨m, hm, hk⟩ := hc.entry
  obtain ⟨⟨log, rfl⟩, rfl⟩ := Walk.step_visit_dir h
  have hcurrent : Current t text w ∨ encode text ∈ visitedBy (.visit path .dir) →
      Current t text { w with log } := fun hcur ↦
    (hcur.resolve_right (by simp [visitedBy])).of_holds hf (.of_eq rfl rfl)
  have hdir : ∀ {l'}, Lies e root n l' (.visit path .dir) →
      path = pathBelow root l' ∧ ∃ es, n.at? l' = some (.dir es) := by
    intro l' hlies
    obtain ⟨rfl, m', hm', hkind⟩ := hlies.of_visit
    cases m' with
    | dir es => exact ⟨rfl, es, hm'⟩
    | file _ _ | link _ => cases hkind
  cases he : e.excludes (Text.lossy path) with
  | true =>
    rw [if_pos rfl]
    refine ⟨hst.congr rfl rfl, hlater, fun hcovered ↦ .inr ?_, hcurrent⟩
    refine (covered_cons_iff.1 hcovered).resolve_left ?_
    rintro ⟨l', hlies, hp⟩
    obtain ⟨rfl, es, hd⟩ := hdir hlies
    have hne : l' ≠ l := by
      rintro rfl
      rw [hm] at hd
      cases hd
      exact hk rfl
    have := hc.kept l' hp hne
    rw [he] at this
    cases this
  | false =>
    rw [if_neg (by simp)]
    refine ⟨hst.congr rfl rfl, ?_, fun hcovered ↦ .inr ?_, hcurrent⟩
    · refine List.forall_mem_cons.2 ⟨?_, hlater⟩
      cases hfirst with
      | idle h hkind =>
        cases h
        exact absurd rfl hkind
      | lies h hkept =>
        obtain ⟨rfl, es, hd⟩ := hdir h
        exact .lies (.enter hd he) hkept
    · refine covered_cons_iff.2 ((covered_cons_iff.1 hcovered).imp_left ?_)
      rintro ⟨l', hlies, hp⟩
      obtain ⟨rfl, es, hd⟩ := hdir hlies
      exact ⟨l', .enter hd he, hp⟩

theorem visit_file_advances {path : Bytes} {kind : Disk.Kind} (hkind : kind ≠ .dir)
    (hst : Steady (Keeps d) (Wanted e root n) w)
    (hfirst : Sound d e root n (.visit path kind)) (hlater : ∀ task ∈ later, Sound d e root n task)
    (h : (Walk.step t e ⟨.visit path kind :: later, s⟩).run w = (.ok p, w')) :
    Advances t d e root n text l (.visit path kind) later w p.tasks w' := by
  obtain ⟨m, hm, hk⟩ := hc.entry
  obtain ⟨target, hvisit, rfl⟩ := Walk.step_visit_file hkind h
  have hby : visitedBy (.visit path kind) = [path] := by
    cases kind with
    | dir => exact absurd rfl hkind
    | file | link => rfl
  obtain ⟨hst', hcurrent⟩ :=
    visitFile_upkeep hf hsink (g.serves ha) hc.isModule (hfirst.proper hkind) hst hvisit
  refine ⟨hst', hlater, fun hcovered ↦ ?_, fun h ↦ hcurrent ?_⟩
  · refine (covered_cons_iff.1 hcovered).imp_left ?_
    rintro ⟨l', hlies, hp⟩
    obtain ⟨rfl, m', hm', rfl⟩ := hlies.of_visit
    obtain rfl := Walk.eq_of_prefix_of_not_dir hm' hkind hm hp
    rw [hby, List.mem_singleton]
    exact Text.decode?_eq_some_iff.1 hc.text_eq
  · rw [hby, List.mem_singleton] at h
    exact h.imp_right Eq.symm

/-- A task of the walk brings the typings of a stylesheet up to date if it visits it, and leaves
them so; and a stylesheet is visited before the tasks above it are done. -/
theorem step_advances (hst : Steady (Keeps d) (Wanted e root n) w)
    (hsound : ∀ task' ∈ task :: later, Sound d e root n task')
    (h : (Walk.step t e ⟨task :: later, s⟩).run w = (.ok p, w')) :
    Advances t d e root n text l task later w p.tasks w' := by
  obtain ⟨hfirst, hlater⟩ := List.forall_mem_cons.1 hsound
  cases task with
  | enter path => exact enter_advances hf g ha hc hst hfirst hlater h
  | visit path kind =>
    by_cases hkind : kind = .dir
    · subst hkind
      exact visit_dir_advances hf hc hst hfirst hlater h
    · exact visit_file_advances hf hsink g ha hc hkind hst hfirst hlater h

end Setting

end StyleTypings.Watch
