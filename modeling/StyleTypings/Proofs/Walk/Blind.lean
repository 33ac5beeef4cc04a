import StyleTypings.Proofs.Walk.Enough
import StyleTypings.Proofs.Walk.Sealed
import StyleTypings.Proofs.Walk.Stopped

namespace StyleTypings.Walk

open Disk (Location Name Node Grows)
open Text (Bytes encode)
open World (Blind Twin run_bind run_get blind_pure blind_say)

variable {t : Toolchain} {e : Exclusion} {d : Disk} {root : Bytes} {top : Location} {n : Node}
  {l : Location}

theorem blind_visitFile (ht : t.Overlooks (Inside e root top)) {path : Bytes}
    (hclear : ∀ text, stylesheet? path = some text → d.Clear (Inside e root top) path ∧
      d.Clear (Inside e root top) (encode (Module.typingsPath text))) :
    Blind (Inside e root top) d (visitFile t path) := by
  unfold visitFile
  cases htext : Text.decode? path with
  | none => exact (blind_say _).bind fun _ ↦ blind_pure _
  | some text =>
    dsimp only
    cases hmodule : Module.isModule text with
    | false => exact blind_pure _
    | true =>
      obtain ⟨hpath, htypings⟩ := hclear text (stylesheet?_eq_some_iff.2 ⟨htext, hmodule⟩)
      simp only [if_true]
      apply World.blind_pause.bind
      intro _ w w' h
      simp only [run_bind, run_get, h.agree.readText_eq (h.clear hpath)]
      cases w.disk.readText path with
      | error fault => exact ⟨rfl, h⟩
      | ok content =>
        refine (World.blind_generate ht htypings).bind (fun answer ↦ ?_) w w' h
        rcases answer with f | outcome
        · exact blind_pure _
        · cases outcome <;> exact blind_pure _

theorem list_cases {w w' : World} (h : Twin (Inside e root top) d w w')
    (hclear : d.Clear (Inside e root top) (pathBelow root l)) (g : Ground d root top n)
    {es : List (Name × Node)} (hd : d.top.at? (top ++ l) = some (.dir es)) (hkept : Kept e root l)
    (he : e.excludes (Text.lossy (pathBelow root l)) = false) :
    (∃ fault, w.disk.list (pathBelow root l) = .error fault ∧
        w'.disk.list (pathBelow root l) = .error fault) ∨
      ∃ entries entries', w.disk.list (pathBelow root l) = .ok entries ∧
        w'.disk.list (pathBelow root l) = .ok entries' ∧
        visits (pathBelow root l) entries' = visits (pathBelow root l) entries := by
  rcases h.agree.list_cases (h.clear hclear) with
    hfault | ⟨location, fs, fs', hl, hl', hlist, hlist'⟩
  · exact .inl hfault
  · refine .inr ⟨_, _, hlist, hlist', ?_⟩
    obtain ⟨-, fs, hat, hopen, -⟩ := Errand.opened_of_list g h.grows hd hlist
    rw [hl] at hopen
    cases hopen
    have hat' := (Disk.lookup_eq_ok_iff.1 hl').2.at?_eq
    refine Errand.visits_congr (h.wellFormed _ _ hat).1 (h.wellFormed' _ _ hat').1 fun name ↦ ?_
    have hrel := h.agree.top (top ++ (l ++ [name])) (not_inside (hkept.append_name he name))
    rw [← List.append_assoc, Node.at?_append_name hat, Node.at?_append_name hat'] at hrel
    generalize fs.lookup name = m at hrel
    generalize fs'.lookup name = m' at hrel
    cases hrel with
    | none => rfl
    | some halike => exact congrArg some halike.kind_eq.symm

theorem blind_step (ht : t.Overlooks (Inside e root top)) (hs : Sealed e d root top)
    (g : Ground d root top n) (htop : ∃ es, d.top.at? top = some (.dir es)) {x : Errand}
    (hsent : x.Sent e d root top) (later : List Task) (s : Summary) :
    Blind (Inside e root top) d (step t e ⟨x.task root :: later, s⟩) := by
  cases hsent with
  | @visit l kind hl hkept hdir =>
    by_cases hk : kind = .dir
    · subst hk
      simp only [Errand.task, step]
      split
      · exact (blind_say _).bind fun _ ↦ blind_pure _
      · exact blind_pure _
    · have hvisit : Blind (Inside e root top) d (visitFile t (pathBelow root l)) := by
        apply blind_visitFile ht
        intro text hsheet
        cases hl with
        | root => exact absurd (hdir.2 (by simpa using htop)) hk
        | entry hopen hx =>
          obtain ⟨htext, hmodule⟩ := stylesheet?_eq_some_iff.1 hsheet
          refine ⟨?_, hs.clear_typings g hopen hx hkept hsheet⟩
          rw [← Text.decode?_eq_some_iff.1 htext]
          exact hs.clear_touched g hopen hx hkept htext (.inl hmodule)
      cases kind with
      | dir => exact absurd rfl hk
      | file | link =>
        apply hvisit.bind
        intro answer
        cases answer <;> exact blind_pure _
  | @list l es hl hkept hd he =>
    simp only [Errand.task, step]
    apply World.blind_pause.bind
    intro _ w w' h
    simp only [run_bind, run_get]
    rcases list_cases h (hs.clear_dir g hl hkept hd) g hd hkept he with
      ⟨fault, hlist, hlist'⟩ | ⟨entries, entries', hlist, hlist', hvisits⟩
    · rw [hlist, hlist']
      exact ⟨rfl, h⟩
    · rw [hlist, hlist']
      dsimp only
      rw [hvisits]
      exact ⟨rfl, h⟩

def Task.path : Task → Bytes
  | .visit path _ => path
  | .enter path => path

/-- A turn that is for nothing strictly inside an excluded directory, and whose path does not lead
through one. -/
structure Outside (e : Exclusion) (root : Bytes) (top : Location) (turn : Turn) : Prop where
  kept : ∃ l, Kept e root l ∧ turn.task.path = pathBelow root l
  clear : turn.disk.Clear (Inside e root top) turn.task.path

section Runs

variable (ht : t.Overlooks (Inside e root top)) (hs : Sealed e d root top) (g : Ground d root top n)
  (htop : ∃ es, d.top.at? top = some (.dir es)) {x : Errand} {xs : List Errand} {s : Summary}
  {w w' : World} {fuel : Nat}
include g

theorem sent_step (hsent : ∀ y ∈ x :: xs, y.Sent e d root top)
    (hw : Twin (Inside e root top) d w w') (p : Progress) (next : World)
    (h : (step t e ⟨x.task root :: xs.map (Errand.task root), s⟩).run w = (.ok p, next)) :
    ∃ ys : List Errand, p.tasks = ys.map (Errand.task root) ∧ ∀ y ∈ ys, y.Sent e d root top := by
  obtain ⟨noted, -, hrun⟩ :=
    run_step (t := t) (e := e) (x.task root) (xs.map (Errand.task root)) s w
  rw [hrun] at h
  cases hgain : (x.task root).gain t e ((x.task root).entered w).disk with
  | error f =>
    rw [hgain] at h
    cases h
  | ok gain =>
    rw [hgain] at h
    cases h
    have hentered : Twin (Inside e root top) d ((x.task root).entered w)
        ((x.task root).entered w') := by
      unfold Task.entered
      split
      · exact (World.blind_pause w w' hw).2
      · exact hw
    obtain ⟨ys, htasks, hbrings⟩ :=
      (hsent x (List.mem_cons_self ..)).exists_brings g hentered.grows hentered.wellFormed hgain
    refine ⟨ys ++ xs, by simp [htasks], fun y hy ↦ ?_⟩
    rcases List.mem_append.1 hy with hy | hy
    · exact hbrings.sent y hy
    · exact hsent y (List.mem_cons_of_mem _ hy)

include hs htop

theorem outside_of_look (hsent : x.Sent e d root top) (hw : Twin (Inside e root top) d w w')
    {turn : Turn} (h : turn ∈ (x.task root).look w) : Outside e root top turn := by
  unfold Task.look at h
  split at h
  next hpauses =>
    obtain rfl := List.mem_singleton.1 h
    have hclear {path : Bytes} (h : d.Clear (Inside e root top) path) :
        ((x.task root).entered w).disk.Clear (Inside e root top) path := by
      rw [Task.entered, if_pos hpauses]
      exact (World.blind_pause w w' hw).2.clear h
    cases hsent with
    | @visit l kind hl hkept hdir =>
      refine ⟨⟨l, hkept, rfl⟩, hclear ?_⟩
      have hsheet : kind ≠ .dir ∧ (stylesheet? (pathBelow root l)).isSome := by
        cases kind <;> simp_all [Errand.task, Task.pauses]
      obtain ⟨text, htext⟩ := Option.isSome_iff_exists.1 hsheet.2
      cases hl with
      | root => exact absurd (hdir.2 (by simpa using htop)) hsheet.1
      | entry hopen hx =>
        obtain ⟨hdecode, hmodule⟩ := stylesheet?_eq_some_iff.1 htext
        have htouched := hs.clear_touched g hopen hx hkept hdecode (.inl hmodule)
        rw [Text.decode?_eq_some_iff.1 hdecode] at htouched
        exact htouched
    | list hl hkept hd he => exact ⟨⟨_, hkept, rfl⟩, hclear (hs.clear_dir g hl hkept hd)⟩
  · cases h

include ht

theorem blind_run (hsent : ∀ y ∈ xs, y.Sent e d root top) :
    Blind (Inside e root top) d (run t e fuel ⟨xs.map (Errand.task root), s⟩) := by
  induction fuel generalizing xs s with
  | zero => exact blind_pure _
  | succ fuel ih =>
    cases xs with
    | nil => exact blind_pure _
    | cons x xs =>
      intro w w' hw
      have hstep := blind_step ht hs g htop (hsent x (List.mem_cons_self ..))
        (xs.map (Errand.task root)) s w w' hw
      have hnext := sent_step (t := t) (s := s) g hsent hw
      rw [List.map_cons, run_succ, run_succ]
      generalize (step t e ⟨x.task root :: xs.map (Errand.task root), s⟩).run w = r at hstep hnext
      generalize (step t e ⟨x.task root :: xs.map (Errand.task root), s⟩).run w' = r' at hstep
      obtain ⟨answer, next⟩ := r
      obtain ⟨answer', next'⟩ := r'
      obtain ⟨hanswer, htwin⟩ := hstep
      obtain rfl : answer' = answer := hanswer
      cases answer' with
      | error f => exact ⟨rfl, htwin⟩
      | ok p =>
        obtain ⟨tasks, s'⟩ := p
        obtain ⟨ys, rfl, hys⟩ := hnext _ _ rfl
        exact ih hys next next' htwin

theorem outside_of_looks (hsent : ∀ y ∈ xs, y.Sent e d root top)
    (hw : Twin (Inside e root top) d w w') :
    ∀ turn ∈ looks t e fuel ⟨xs.map (Errand.task root), s⟩ w, Outside e root top turn := by
  induction fuel generalizing xs s w w' with
  | zero => simp [looks]
  | succ fuel ih =>
    cases xs with
    | nil => simp [looks]
    | cons x xs =>
      have hstep := blind_step ht hs g htop (hsent x (List.mem_cons_self ..))
        (xs.map (Errand.task root)) s w w' hw
      have hnext := sent_step (t := t) (s := s) g hsent hw
      intro turn hturn
      rw [List.map_cons, looks] at hturn
      rcases List.mem_append.1 hturn with hturn | hturn
      · exact outside_of_look hs g htop (hsent x (List.mem_cons_self ..)) hw hturn
      · generalize (step t e ⟨x.task root :: xs.map (Errand.task root), s⟩).run w = r
          at hstep hnext hturn
        obtain ⟨_ | ⟨tasks, s'⟩, next⟩ := r
        · cases hturn
        · obtain ⟨ys, rfl, hys⟩ := hnext _ _ rfl
          exact ih hys hstep.2 turn hturn

end Runs

/-- Trees in which a root is a directory and which differ in what lies strictly inside excluded
directories at or below it alone, whatever that is. -/
structure DifferInside (e : Exclusion) (root : Bytes) (top : Location) (d d' : Disk) : Prop where
  wellFormed : d.top.WellFormed
  wellFormed' : d'.top.WellFormed
  lookup_eq : ∃ es, d.lookup root false = .ok (.found top (.dir es))
  node_eq : ∃ es, d'.node root false = .ok (.dir es)
  agree : d.Agree (Inside e root top) d'

theorem DifferInside.bar {d' : Disk} (h : DifferInside e root top d d')
    (barred : List (Location × Disk.Fault)) (hinside : ∀ bar ∈ barred, Inside e root top bar.1) :
    DifferInside e root top d { d' with barred := barred ++ d'.barred } where
  wellFormed := h.wellFormed
  wellFormed' := h.wellFormed'
  lookup_eq := h.lookup_eq
  node_eq := h.node_eq
  agree := h.agree.bar hinside

/-- Excluded directories are invisible. A walk from a directory answers the same, with a failure or
without, and makes the same calls on two trees that differ in what lies inside excluded directories;
and all that it looks at lies outside of them. -/
theorem fromDirectory_blind {root : String} {w : World} {d' : Disk}
    (hdiffer : DifferInside e (encode root) top w.disk d')
    (hsealed : Sealed e w.disk (encode root) top)
    (ht : t.Overlooks (Inside e (encode root) top)) (hqueue : w.writer.queue = []) :
    ((fromDirectory t e root).run { w with disk := d' }).1 = ((fromDirectory t e root).run w).1 ∧
      ((fromDirectory t e root).run { w with disk := d' }).2.calls =
        ((fromDirectory t e root).run w).2.calls ∧
      ∀ turn ∈ looksFrom t e root w, Outside e (encode root) top turn := by
  obtain ⟨hwf, hwf', ⟨es, hroot⟩, ⟨es', hroot'⟩, hagree⟩ := hdiffer
  have hnode : w.disk.node (encode root) false = .ok (.dir es) := by rw [Disk.node, hroot]
  obtain ⟨top₁, g, -⟩ := exists_ground hwf hnode (by simp [Node.kind])
  obtain ⟨top', g', -⟩ := exists_ground hwf' hroot' (by simp [Node.kind])
  obtain rfl : top₁ = top := by
    obtain ⟨hf, hleads⟩ := Disk.lookup_eq_ok_iff.1 hroot
    have hrooted := Disk.lookup_eq_ok_iff.2 ⟨hf, hleads.followLast_true (by simp [Node.kind])⟩
    rw [g.rooted] at hrooted
    cases hrooted
    rfl
  have hat := (Disk.lookup_eq_ok_iff.1 g.rooted).2.at?_eq
  have hsent : ∀ y ∈ [(⟨[], some .dir⟩ : Errand)], y.Sent e w.disk (encode root) top₁ := by
    intro y hy
    obtain rfl := List.mem_singleton.1 hy
    exact .visit .root (kept_nil e _) (by simp [hat])
  have htwin : Twin (Inside e (encode root) top₁) w.disk w { w with disk := d' } :=
    ⟨rfl, hagree, .refl _ _, hwf, hwf', by simp [hqueue]⟩
  have hstart := start_of_node hnode (by simp [Node.kind])
  have hstart' := start_of_node hroot' (by simp [Node.kind])
  -- Neither walk uses up its tasks, so both may do as many as the two of them together.
  have henough := enough_taskBound (t := t) (e := e) g hqueue (taskBound d')
  have henough' := enough_taskBound (t := t) (e := e) (w := { w with disk := d' }) g' hqueue
    (taskBound w.disk)
  have hblind : Blind (Inside e (encode root) top₁) w.disk
      (run t e (taskBound w.disk + taskBound d') ⟨[.visit (encode root) .dir], {}⟩) :=
    blind_run ht hsealed g ⟨es, hat⟩ hsent
  obtain ⟨hanswer, hnext⟩ := hblind w _ htwin
  have hrun := run_fromDirectory (t := t) (e := e) hstart
  have hrun' := run_fromDirectory (t := t) (e := e) (w := { w with disk := d' }) hstart'
  simp only [Node.kind] at hrun hrun' hstart
  rw [← henough] at hrun
  rw [← henough', Nat.add_comm] at hrun'
  refine ⟨?_, ?_, ?_⟩
  · rw [hrun, hrun']
    exact hanswer
  · rw [hrun, hrun']
    exact hnext.calls_eq
  · rw [looksFrom, hstart]
    exact outside_of_looks ht hsealed g ⟨es, hat⟩ hsent htwin

def screened (entries hidden : List (Name × Node)) : Disk where
  top := .dir [([115], .dir (([118], .dir hidden) :: entries))]

def skipsV : Exclusion := some (· == "s/v")

def hiddenSheet (content : Bytes) : List (Name × Node) :=
  [(encode "x.module.css", .file content false)]

theorem inside_screened (name : Name) (below : Location) :
    Inside skipsV (encode "s") [[115]] ([115] :: [118] :: name :: below) := by
  have hv : skipsV.excludes (Text.lossy (pathBelow (encode "s") [[118]])) = true := by cbv
  refine ⟨[118] :: name :: below, rfl, fun hkept ↦ ?_⟩
  have hnot := hkept [[118]] (List.prefix_append [[118]] (name :: below)) (by simp)
  rw [hv] at hnot
  cases hnot

theorem agree_screened (entries hidden hidden' : List (Name × Node)) :
    (screened entries hidden).Agree (Inside skipsV (encode "s") [[115]])
      (screened entries hidden') := by
  refine ⟨rfl, fun l hl ↦ ?_, fun _ _ ↦ rfl⟩
  rcases l with _ | ⟨s, rest⟩
  · exact .some trivial
  by_cases hs : s = [115]
  · subst hs
    rcases rest with _ | ⟨v, rest⟩
    · exact .some trivial
    by_cases hv' : v = [118]
    · subst hv'
      rcases rest with _ | ⟨x, rest⟩
      · exact .some trivial
      · exact absurd (inside_screened x rest) hl
    · have hb : (v == [118]) = false := beq_eq_false_iff_ne.2 hv'
      simp only [screened, Node.at?, Node.entries, List.lookup, hb, BEq.rfl]
      exact Node.rel_refl _
  · have hb : (s == [115]) = false := beq_eq_false_iff_ne.2 hs
    simp only [screened, Node.at?, Node.entries, List.lookup, hb]
    exact .none

theorem wellFormed_screened {name : Name} {m : Node} {hidden : List (Name × Node)}
    (hname : Disk.Plain name) (hne : [118] ≠ name) (hm : m.WellFormed)
    (hhidden : (Node.dir hidden).WellFormed) : (screened [(name, m)] hidden).top.WellFormed := by
  have hv : Disk.Plain [118] := by decide
  refine Node.wellFormed_entry (by decide) (Node.wellFormed_of_entries (by simp [hne]) ?_ ?_)
  · simp [hv, hname]
  · simp [hhidden, hm]

theorem wellFormed_hiddenSheet (content : Bytes) :
    (Node.dir (hiddenSheet content)).WellFormed := by
  have hname : encode "x.module.css" =
      [120, 46, 109, 111, 100, 117, 108, 101, 46, 99, 115, 115] := by cbv
  rw [hiddenSheet, hname]
  exact Node.wellFormed_entry (by decide) (Node.wellFormed_of_not_dir (by simp))

theorem differInside_screened {name : Name} {m : Node} (hname : Disk.Plain name)
    (hne : [118] ≠ name) (hm : m.kind ≠ .dir) {hidden hidden' : List (Name × Node)}
    (h : (Node.dir hidden).WellFormed) (h' : (Node.dir hidden').WellFormed) :
    DifferInside skipsV (encode "s") [[115]] (screened [(name, m)] hidden)
      (screened [(name, m)] hidden') where
  wellFormed := wellFormed_screened hname hne (Node.wellFormed_of_not_dir fun es heq ↦
    hm (by rw [heq]; rfl)) h
  wellFormed' := wellFormed_screened hname hne (Node.wellFormed_of_not_dir fun es heq ↦
    hm (by rw [heq]; rfl)) h'
  lookup_eq := ⟨_, by cbv⟩
  node_eq := ⟨_, by cbv⟩
  agree := agree_screened ..

theorem rooted_screened (entries hidden : List (Name × Node)) :
    (screened entries hidden).Clear (Inside skipsV (encode "s") [[115]]) (encode "s") := by
  have hway : (screened entries hidden).way (encode "s") = [[], [[115]]] := by cbv
  intro l hl
  rw [hway] at hl
  rcases List.mem_pair.1 hl with rfl | rfl
  · rintro ⟨below, heq, -⟩
    cases heq
  · exact not_inside (l := []) (kept_nil skipsV (encode "s"))

/-- The small tree with a broken stylesheet in the directory that is skipped, which cannot be
opened either. -/
def brokenDisk : Disk :=
  { screened [(encode "a.module.css", .file [] false)] (hiddenSheet [255]) with
    barred := [([[115], [118], encode "x.module.css"], .denied)] }

theorem fromDirectory_blind_small : ((fromDirectory smallTools skipsV "s").run
    { disk := brokenDisk }).1 = .ok ⟨["s/a.module.css.d.ts"], ["s/v"]⟩ := by
  have hname : encode "a.module.css" =
      [97, 46, 109, 111, 100, 117, 108, 101, 46, 99, 115, 115] := by cbv
  have hdiffer : DifferInside skipsV (encode "s") [[115]] smallDisk brokenDisk := by
    refine DifferInside.bar ?_ [([[115], [118], encode "x.module.css"], .denied)]
      (by simpa using inside_screened ..)
    refine differInside_screened (hname ▸ by decide) (hname ▸ by decide) (by simp [Node.kind]) ?_
      (wellFormed_hiddenSheet _)
    exact Node.wellFormed_empty
  have hlinks : Watch.NoLinks
      (.dir [([118], .dir []), (encode "a.module.css", .file [] false)]) := by
    refine Watch.noLinks_dir fun entry hentry ↦ ?_
    rcases List.mem_pair.1 hentry with rfl | rfl
    · exact Watch.noLinks_dir (by simp)
    · exact Watch.noLinks_file [] false
  have hsealed : Sealed skipsV smallDisk (encode "s") [[115]] :=
    sealed_of_no_links rfl hlinks (rooted_screened _ _)
  obtain ⟨w', hrun⟩ := exists_run_small
  obtain ⟨hanswer, -, -⟩ := fromDirectory_blind (t := smallTools) (w := { disk := smallDisk })
    hdiffer hsealed ⟨fun _ ↦ rfl, fun _ ↦ rfl⟩ rfl
  rw [hanswer]
  exact congrArg Prod.fst hrun

def linkedSheet : List (Name × Node) := [(encode "b.module.css", .link (encode "v/x.module.css"))]

def importingSheet : List (Name × Node) := [(encode "b.module.scss", .file [] false)]

def printingTools : Toolchain := ⟨.unavailable, .passthrough, .output⟩

def importingTools : Toolchain where
  compiler.compile d _ _ _ :=
    match d.readText (encode "s/v/x.module.css") with
    | .ok text => ([], .ok text)
    | .error _ => ([], .error .notFound)
  formatter := .passthrough
  sink := .output

theorem still_screened {entries hidden : List (Name × Node)} {text : String}
    (kind : Disk.Kind) (hkind : kind ≠ .dir) (hsheet : stylesheet? (encode text) = some text)
    (hlist : (Task.enter (encode "s")).gain t skipsV (screened entries hidden) =
      .ok { tasks := [.visit (encode text) kind, .visit (encode "s/v") .dir] }) :
    (stillFrom t skipsV (screened entries hidden) "s").1 =
      match sheetGain t (screened entries hidden) text with
      | .error f => .error f
      | .ok _ => .ok ⟨[Module.typingsPath text], ["s/v"]⟩ := by
  have hstart : start (screened entries hidden) (encode "s") = .ok [.visit (encode "s") .dir] := by
    cbv
  have hroot : (Task.visit (encode "s") .dir).gain t skipsV (screened entries hidden) =
      .ok { tasks := [.enter (encode "s")] } := by cbv
  have hv : (Task.visit (encode "s/v") .dir).gain t skipsV (screened entries hidden) =
      .ok { summary := ⟨[], ["s/v"]⟩ } := by cbv
  obtain ⟨k, hk⟩ : ∃ k, taskBound (screened entries hidden) = k + 4 := ⟨_, rfl⟩
  simp only [stillFrom, hstart, hk, still, hroot, hlist, List.cons_append, List.nil_append,
    gain_of_stylesheet hkind hsheet]
  cases hgain : sheetGain t (screened entries hidden) text with
  | error f => rfl
  | ok g =>
    obtain ⟨content, names, -, -, rfl⟩ := sheetGain_eq_ok_iff.1 hgain
    simp only [List.nil_append, hv]
    cases k <;> rfl

theorem still_linkedSheet :
    (stillFrom printingTools skipsV (screened linkedSheet (hiddenSheet [])) "s").1 =
        .ok ⟨["s/b.module.css.d.ts"], ["s/v"]⟩ ∧
      (stillFrom printingTools skipsV (screened linkedSheet (hiddenSheet [255])) "s").1 =
        .error (.read "s/b.module.css" .notText) := by
  have hsheet : stylesheet? (encode "s/b.module.css") = some "s/b.module.css" :=
    stylesheet?_eq_some_iff.2 ⟨Text.decode?_eq_some_iff.2 rfl, by decide +kernel⟩
  have hread : (screened linkedSheet (hiddenSheet [])).readText (encode "s/b.module.css") =
      .ok "" := by cbv
  have hnames : printingTools.namesOf (screened linkedSheet (hiddenSheet [])) "" "s/b.module.css" =
      .ok [] := by cbv
  have hread' : (screened linkedSheet (hiddenSheet [255])).readText (encode "s/b.module.css") =
      .error .notText := by cbv
  constructor
  · rw [still_screened .link (by simp) hsheet (by cbv),
      sheetGain_eq_ok_iff.2 ⟨_, _, hread, hnames, rfl⟩]
    rfl
  · rw [still_screened .link (by simp) hsheet (by cbv), sheetGain, hread']
    rfl

theorem still_importingSheet :
    (stillFrom importingTools skipsV (screened importingSheet (hiddenSheet [])) "s").1 =
        .ok ⟨["s/b.module.scss.d.ts"], ["s/v"]⟩ ∧
      (stillFrom importingTools skipsV (screened importingSheet (hiddenSheet [255])) "s").1 =
        .error (.compile "s/b.module.scss" .notFound) := by
  have hsheet : stylesheet? (encode "s/b.module.scss") = some "s/b.module.scss" :=
    stylesheet?_eq_some_iff.2 ⟨Text.decode?_eq_some_iff.2 rfl, by decide +kernel⟩
  have hread (content : Bytes) : (screened importingSheet (hiddenSheet content)).readText
      (encode "s/b.module.scss") = .ok "" := by cbv
  have hnames : importingTools.namesOf (screened importingSheet (hiddenSheet [])) ""
      "s/b.module.scss" = .ok [] := by cbv
  have hnames' : importingTools.namesOf (screened importingSheet (hiddenSheet [255])) ""
      "s/b.module.scss" = .error (.compile "s/b.module.scss" .notFound) := by cbv
  constructor
  · rw [still_screened .file (by simp) hsheet (by cbv),
      sheetGain_eq_ok_iff.2 ⟨_, _, hread _, hnames, rfl⟩]
    rfl
  · rw [still_screened .file (by simp) hsheet (by cbv), sheetGain, hread]
    dsimp only
    rw [hnames']

theorem run_printing (hsink : t.sink = .output) (d : Disk) (root : String) :
    ((fromDirectory t e root).run { disk := d }).1 = (stillFrom t e d root).1 := by
  have hprints : Prints "" false d { disk := d } := ⟨rfl, rfl, rfl⟩
  obtain ⟨w', hrun, -⟩ := hprints.run_fromDirectory (e := e) hsink root
  rw [hrun]

/-- What lies in an excluded directory can show: through a link that takes the place of a
stylesheet, and through a compiler that looks there. -/
theorem fromDirectory_not_blind :
    (DifferInside skipsV (encode "s") [[115]] (screened linkedSheet (hiddenSheet []))
        (screened linkedSheet (hiddenSheet [255])) ∧
      printingTools.Overlooks (Inside skipsV (encode "s") [[115]]) ∧
      ((fromDirectory printingTools skipsV "s").run
          { disk := screened linkedSheet (hiddenSheet []) }).1 ≠
        ((fromDirectory printingTools skipsV "s").run
          { disk := screened linkedSheet (hiddenSheet [255]) }).1) ∧
    DifferInside skipsV (encode "s") [[115]] (screened importingSheet (hiddenSheet []))
        (screened importingSheet (hiddenSheet [255])) ∧
      Sealed skipsV (screened importingSheet (hiddenSheet [])) (encode "s") [[115]] ∧
      ((fromDirectory importingTools skipsV "s").run
          { disk := screened importingSheet (hiddenSheet []) }).1 ≠
        ((fromDirectory importingTools skipsV "s").run
          { disk := screened importingSheet (hiddenSheet [255]) }).1 := by
  have hcss : encode "b.module.css" =
      [98, 46, 109, 111, 100, 117, 108, 101, 46, 99, 115, 115] := by cbv
  have hscss : encode "b.module.scss" =
      [98, 46, 109, 111, 100, 117, 108, 101, 46, 115, 99, 115, 115] := by cbv
  refine ⟨⟨?_, ⟨fun _ ↦ rfl, fun _ ↦ rfl⟩, ?_⟩, ?_, ?_, ?_⟩
  · exact differInside_screened (hcss ▸ by decide) (hcss ▸ by decide) (by simp [Node.kind])
      (wellFormed_hiddenSheet _) (wellFormed_hiddenSheet _)
  · rw [run_printing rfl, run_printing rfl, still_linkedSheet.1, still_linkedSheet.2]
    simp
  · exact differInside_screened (hscss ▸ by decide) (hscss ▸ by decide) (by simp [Node.kind])
      (wellFormed_hiddenSheet _) (wellFormed_hiddenSheet _)
  · refine sealed_of_no_links rfl (Watch.noLinks_dir fun entry hentry ↦ ?_) (rooted_screened _ _)
    rcases List.mem_pair.1 hentry with rfl | rfl
    · exact Watch.noLinks_dir (by simpa [hiddenSheet] using Watch.noLinks_file [] false)
    · exact Watch.noLinks_file [] false
  · rw [run_printing rfl, run_printing rfl, still_importingSheet.1, still_importingSheet.2]
    simp

end StyleTypings.Walk
