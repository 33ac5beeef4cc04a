import StyleTypings.Proofs.Walk.Intact
import StyleTypings.Proofs.Walk.Start
import StyleTypings.Proofs.Walk.Turns

namespace StyleTypings.Walk

open Disk (Location Name Node)
open Text (Bytes encode)
open Watch (NoLinks)
open World (Tame requests)

/-- What a walk looks at below a root, and its task there: it lists the directories that are not
excluded, and it visits stylesheets. -/
inductive Item (e : Exclusion) (root : Bytes) (n : Node) : Location → Task → Prop
  | enter {l : Location} {es : List (Name × Node)} (hd : n.at? l = some (.dir es))
      (hkept : Kept e root l) (he : e.excludes (Text.lossy (pathBelow root l)) = false) :
      Item e root n l (.enter (pathBelow root l))
  | visit {l : Location} {m : Node} {text : String} (hm : n.at? l = some m)
      (hc : Chosen e root n l text) : Item e root n l (.visit (pathBelow root l) m.kind)

structure Located extends Turn where
  location : Location

structure Sees (e : Exclusion) (d : Disk) (root : Bytes) (top : Location) (n : Node)
    (turn : Located) : Prop where
  item : Item e root n turn.location turn.task
  above (above : Location) (x : Name) : turn.location = above ++ [x] → Opened d root top above
  intact : Intact d root top n turn.disk

/-- Turns for all the items of a part of a tree, in order, none of which fails. -/
structure Passes (t : Toolchain) (e : Exclusion) (d : Disk) (root : Bytes) (top : Location)
    (n : Node) (part : Location → Prop) (passed : List Located) : Prop where
  sorted : passed.Pairwise (·.location < ·.location)
  within (turn : Located) : turn ∈ passed → part turn.location
  sees (turn : Located) : turn ∈ passed → Sees e d root top n turn
  gain (turn : Located) : turn ∈ passed → ∃ g, turn.toTurn.gain t e = .ok g
  complete (l : Location) (task : Task) : part l → Item e root n l task →
    ∃ turn ∈ passed, turn.location = l ∧ turn.task = task

variable {t : Toolchain} {e : Exclusion} {d : Disk} {root : Bytes} {top : Location} {n : Node}
  {part part' : Location → Prop} {passed passed' : List Located}

theorem Chosen.stylesheet?_eq {l : Location} {text : String} (h : Chosen e root n l text) :
    stylesheet? (pathBelow root l) = some text :=
  stylesheet?_eq_some_iff.2 ⟨h.text_eq, h.isModule⟩

theorem Chosen.not_dir {l : Location} {m : Node} {text : String} (h : Chosen e root n l text)
    (hm : n.at? l = some m) : m.kind ≠ .dir := by
  obtain ⟨m', hm', hk⟩ := h.entry
  rw [hm] at hm'
  cases hm'
  exact hk

theorem Item.unique {l : Location} {task task' : Task} (h : Item e root n l task)
    (h' : Item e root n l task') : task = task' := by
  cases h with
  | enter hd =>
    cases h' with
    | enter => rfl
    | visit _ hc => exact absurd rfl (hc.not_dir hd)
  | visit hm hc =>
    cases h' with
    | enter hd => exact absurd rfl (hc.not_dir hd)
    | visit hm' =>
      rw [hm] at hm'
      cases hm'
      rfl

theorem Item.exists_at? {l : Location} {task : Task} (h : Item e root n l task) :
    ∃ m, n.at? l = some m := by
  cases h with
  | enter hd => exact ⟨_, hd⟩
  | visit hm => exact ⟨_, hm⟩

theorem Item.kept {l : Location} {task : Task} (h : Item e root n l task) : Kept e root l := by
  cases h with
  | enter _ hkept => exact hkept
  | visit _ hc => exact hc.kept

theorem Passes.nil (h : ∀ l task, part l → ¬Item e root n l task) :
    Passes t e d root top n part [] where
  sorted := .nil
  within := by simp
  sees := by simp
  gain := by simp
  complete l task hl hitem := absurd hitem (h l task hl)

theorem Passes.single {turn : Located} (hsees : Sees e d root top n turn) {g : Gain}
    (hgain : turn.toTurn.gain t e = .ok g)
    (hpart : ∀ l task, Item e root n l task → (part l ↔ l = turn.location)) :
    Passes t e d root top n part [turn] where
  sorted := List.pairwise_singleton ..
  within other hm := by
    obtain rfl := List.mem_singleton.1 hm
    exact (hpart _ _ hsees.item).2 rfl
  sees other hm := List.mem_singleton.1 hm ▸ hsees
  gain other hm := List.mem_singleton.1 hm ▸ ⟨g, hgain⟩
  complete l task hl hitem := by
    obtain rfl := (hpart l task hitem).1 hl
    exact ⟨turn, List.mem_singleton_self _, rfl, hsees.item.unique hitem⟩

theorem Passes.congr (h : Passes t e d root top n part passed)
    (hpart : ∀ l task, Item e root n l task → (part l ↔ part' l)) :
    Passes t e d root top n part' passed where
  sorted := h.sorted
  within turn hm := (hpart _ _ (h.sees turn hm).item).1 (h.within turn hm)
  sees := h.sees
  gain := h.gain
  complete l task hl hitem := h.complete l task ((hpart l task hitem).2 hl) hitem

theorem Passes.append (h : Passes t e d root top n part passed)
    (h' : Passes t e d root top n part' passed') (hlt : ∀ l l', part l → part' l' → l < l') :
    Passes t e d root top n (fun l ↦ part l ∨ part' l) (passed ++ passed') where
  sorted := List.pairwise_append.2 ⟨h.sorted, h'.sorted,
    fun a ha b hb ↦ hlt _ _ (h.within a ha) (h'.within b hb)⟩
  within turn hm := (List.mem_append.1 hm).imp (h.within turn) (h'.within turn)
  sees turn hm := (List.mem_append.1 hm).elim (h.sees turn) (h'.sees turn)
  gain turn hm := (List.mem_append.1 hm).elim (h.gain turn) (h'.gain turn)
  complete l task hl hitem := by
    rcases hl with hl | hl
    · obtain ⟨turn, hm, heq⟩ := h.complete l task hl hitem
      exact ⟨turn, List.mem_append_left _ hm, heq⟩
    · obtain ⟨turn, hm, heq⟩ := h'.complete l task hl hitem
      exact ⟨turn, List.mem_append_right _ hm, heq⟩

/-- Some tasks go over a part of a tree: a walk that fails behind them has passed all of it, and a
walk that fails with them has passed all in front of the item that it fails with. -/
def Goes (t : Toolchain) (e : Exclusion) (d : Disk) (root : Bytes) (top : Location) (n : Node)
    (part : Location → Prop) (tasks : List Task) : Prop :=
  ∀ later s fuel w f last, Tame (Intact d root top n) (Requested d root top) w →
    (run t e fuel ⟨tasks ++ later, s⟩).run w = (.error f, last) →
    (∃ passed fuel' s' w', Passes t e d root top n part passed ∧
      Tame (Intact d root top n) (Requested d root top) w' ∧
      Advances t e fuel ⟨tasks ++ later, s⟩ w (passed.map (·.toTurn)) fuel' ⟨later, s'⟩ w') ∨
    ∃ passed stop fuel' later' s' w',
      Passes t e d root top n (fun l ↦ part l ∧ l < stop.location) passed ∧ part stop.location ∧
      Sees e d root top n stop ∧ stop.disk = (stop.task.entered w').disk ∧
      stop.toTurn.gain t e = .error f ∧
      Advances t e fuel ⟨tasks ++ later, s⟩ w (passed.map (·.toTurn)) (fuel' + 1)
        ⟨stop.task :: later', s'⟩ w'

variable {tasks tasks' : List Task}

theorem Goes.congr (h : Goes t e d root top n part tasks)
    (hpart : ∀ l task, Item e root n l task → (part l ↔ part' l)) :
    Goes t e d root top n part' tasks := by
  intro later s fuel w f last htame hfails
  rcases h later s fuel w f last htame hfails with
    ⟨passed, fuel', s', w', hpasses, hrest⟩ |
    ⟨passed, stop, fuel', later', s', w', hpasses, hstop, hsees, hrest⟩
  · exact .inl ⟨passed, fuel', s', w', hpasses.congr hpart, hrest⟩
  · exact .inr ⟨passed, stop, fuel', later', s', w',
      hpasses.congr fun l task hitem ↦ and_congr_left' (hpart l task hitem),
      (hpart _ _ hsees.item).1 hstop, hsees, hrest⟩

theorem Goes.nil : Goes t e d root top n (fun _ ↦ False) [] := by
  intro later s fuel w f last htame _
  exact .inl ⟨[], fuel, s, w, .nil (by simp), htame, .refl⟩

theorem Goes.append (h : Goes t e d root top n part tasks)
    (h' : Goes t e d root top n part' tasks') (hlt : ∀ l l', part l → part' l' → l < l') :
    Goes t e d root top n (fun l ↦ part l ∨ part' l) (tasks ++ tasks') := by
  intro later s fuel w f last htame hfails
  rw [List.append_assoc] at hfails ⊢
  rcases h _ s fuel w f last htame hfails with
    ⟨passed, fuel₁, s₁, w₁, hpasses, htame₁, hadvances⟩ |
    ⟨passed, stop, fuel₁, later₁, s₁, w₁, hpasses, hstop, hrest⟩
  · rw [hadvances.run_eq] at hfails
    rcases h' later s₁ fuel₁ w₁ f last htame₁ hfails with
      ⟨passed', fuel₂, s₂, w₂, hpasses', htame₂, hadvances'⟩ |
      ⟨passed', stop, fuel₂, later₂, s₂, w₂, hpasses', hstop, hsees, hdisk, hgain, hadvances'⟩
    · refine .inl ⟨passed ++ passed', fuel₂, s₂, w₂, hpasses.append hpasses' hlt, htame₂, ?_⟩
      rw [List.map_append]
      exact hadvances.trans hadvances'
    · refine .inr ⟨passed ++ passed', stop, fuel₂, later₂, s₂, w₂, ?_, .inr hstop, hsees, hdisk,
        hgain, ?_⟩
      · refine (hpasses.append hpasses' fun l l' hl hl' ↦ hlt l l' hl hl'.1).congr
          fun l task _ ↦ ⟨?_, ?_⟩
        · rintro (hl | ⟨hl, hlt'⟩)
          · exact ⟨.inl hl, hlt _ _ hl hstop⟩
          · exact ⟨.inr hl, hlt'⟩
        · rintro ⟨hl | hl, hlt'⟩
          · exact .inl hl
          · exact .inr ⟨hl, hlt'⟩
      · rw [List.map_append]
        exact hadvances.trans hadvances'
  · refine .inr ⟨passed, stop, fuel₁, later₁, s₁, w₁, hpasses.congr fun l task _ ↦ ⟨?_, ?_⟩,
      .inl hstop, hrest⟩
    · exact fun ⟨hl, hlt'⟩ ↦ ⟨.inl hl, hlt'⟩
    · rintro ⟨hl | hl, hlt'⟩
      · exact ⟨hl, hlt'⟩
      · exact absurd hlt' (List.lt_asymm (hlt _ _ hstop hl))

theorem goes_quiet {task : Task} {g : Gain} (hpauses : task.pauses = false)
    (hgain : ∀ d', task.gain t e d' = .ok g) (hrequest : g.request? = none)
    (ho : World.Outlasts (Intact d root top n) (Requested d root top))
    (hgoes : Goes t e d root top n part g.tasks) : Goes t e d root top n part [task] := by
  intro later s fuel w f last htame hfails
  have hlook : task.look w = [] := if_neg (by simp [hpauses])
  obtain ⟨fuel', rfl, hf | ⟨g', w', hg, htame', hadvances⟩⟩ :=
    fails_cases ho htame (fun g' r hg hr ↦ by
      rw [hgain] at hg
      cases hg
      rw [hrequest] at hr
      cases hr) hfails
  · rw [hgain] at hf
    cases hf
  · rw [hgain] at hg
    cases hg
    rw [hlook] at hadvances
    rcases hgoes later _ fuel' w' f last htame' (hadvances.run_eq.symm.trans hfails) with
      ⟨passed, fuel₂, s₂, w₂, hpasses, htame₂, hadvances'⟩ |
      ⟨passed, stop, fuel₂, later₂, s₂, w₂, hpasses, hstop, hsees, hdisk, hgain, hadvances'⟩
    · exact .inl ⟨passed, fuel₂, s₂, w₂, hpasses, htame₂, hadvances.trans hadvances'⟩
    · exact .inr ⟨passed, stop, fuel₂, later₂, s₂, w₂, hpasses, hstop, hsees, hdisk, hgain,
        hadvances.trans hadvances'⟩

theorem goes_unlisted {path : Bytes} {kind : Disk.Kind} (hk : kind ≠ .dir)
    (hsheet : stylesheet? path = none)
    (ho : World.Outlasts (Intact d root top n) (Requested d root top))
    (hpart : ∀ l task, part l → ¬Item e root n l task) :
    Goes t e d root top n part [.visit path kind] := by
  have hnil : Goes t e d root top n part [] :=
    Goes.nil.congr fun l task hitem ↦ ⟨False.elim, fun hl ↦ hpart l task hl hitem⟩
  cases kind with
  | dir => exact absurd rfl hk
  | file | link =>
    refine goes_quiet (g := {}) ?_ (fun d' ↦ ?_) rfl ho hnil
    · simp [Task.pauses, hsheet]
    · simp only [Task.gain, hsheet]

theorem Item.pauses {l : Location} {task : Task} (h : Item e root n l task) :
    task.pauses = true := by
  cases h with
  | enter => rfl
  | @visit m text hm hc =>
    cases m with
    | dir es => exact absurd rfl (hc.not_dir hm)
    | file | link => simp [Task.pauses, Node.kind, hc.stylesheet?_eq]

/-- The task for the first item of a part. What it adds goes over the rest of the part. -/
theorem goes_item {l : Location} {task : Task} (hitem : Item e root n l task)
    (habove : ∀ above x, l = above ++ [x] → Opened d root top above)
    (ho : World.Outlasts (Intact d root top n) (Requested d root top)) (hl : part l)
    (hfirst : ∀ l' task, Item e root n l' task → part l' → l' = l ∨ l < l')
    (hrest : ∀ d' g, Intact d root top n d' → task.gain t e d' = .ok g →
      (∀ r, g.request? = some r → Requested d root top r) ∧
        Goes t e d root top n (fun l' ↦ part l' ∧ l < l') g.tasks) :
    Goes t e d root top n part [task] := by
  intro later s fuel w f last htame hfails
  have hintact := (tame_entered ho htame task).disk
  have hlook : task.look w = [⟨task, (task.entered w).disk⟩] := if_pos hitem.pauses
  have hsees : Sees e d root top n ⟨⟨task, (task.entered w).disk⟩, l⟩ := ⟨hitem, habove, hintact⟩
  obtain ⟨fuel', rfl, hf | ⟨g, w', hg, htame', hadvances⟩⟩ :=
    fails_cases ho htame (fun g r hg hr ↦ (hrest _ g hintact hg).1 r hr) hfails
  -- A task that fails at once has nothing in front of it.
  · refine .inr ⟨[], _, fuel', later, s, w, .nil fun l' task' hl' hitem' ↦ ?_, hl, hsees, rfl, hf,
      .refl⟩
    rcases hfirst l' task' hitem' hl'.1 with rfl | hlt
    · exact List.lt_irrefl _ hl'.2
    · exact List.lt_asymm hlt hl'.2
  · obtain ⟨-, hgoes⟩ := hrest _ g hintact hg
    have hsingle : Passes t e d root top n (· = l) [⟨⟨task, (task.entered w).disk⟩, l⟩] :=
      .single hsees hg fun _ _ _ ↦ Iff.rfl
    rw [hlook] at hadvances
    rcases hgoes later _ fuel' w' f last htame' (hadvances.run_eq.symm.trans hfails) with
      ⟨passed, fuel₂, s₂, w₂, hpasses, htame₂, hadvances'⟩ |
      ⟨passed, stop, fuel₂, later₂, s₂, w₂, hpasses, hstop, hsees', hdisk, hgain, hadvances'⟩
    · refine .inl ⟨_, fuel₂, s₂, w₂, (hsingle.append hpasses ?_).congr fun l' task' hitem' ↦ ?_,
        htame₂, hadvances.trans hadvances'⟩
      · rintro _ l' rfl hl'
        exact hl'.2
      · constructor
        · rintro (rfl | hl')
          · exact hl
          · exact hl'.1
        · intro hl'
          exact (hfirst l' task' hitem' hl').imp_right fun hlt ↦ ⟨hl', hlt⟩
    · refine .inr ⟨_, stop, fuel₂, later₂, s₂, w₂,
        (hsingle.append hpasses ?_).congr fun l' task' hitem' ↦ ?_, hstop.1, hsees', hdisk, hgain,
        hadvances.trans hadvances'⟩
      · rintro _ l' rfl hl'
        exact hl'.1.2
      · constructor
        · rintro (rfl | ⟨hl', hlt⟩)
          · exact ⟨hl, hstop.2⟩
          · exact ⟨hl'.1, hlt⟩
        · rintro ⟨hl', hlt⟩
          exact (hfirst l' task' hitem' hl').imp_right fun hlt' ↦ ⟨⟨hl', hlt'⟩, hlt⟩

section Ground

variable (g : Ground d root top n) (hdir : n.kind = .dir) (hn : NoLinks n)
include g hdir hn

theorem requested_of_chosen {above : Location} {x : Name} {text : String} {r : WriteRequest}
    (hc : Chosen e root n (above ++ [x]) text) (hopen : Opened d root top above)
    (hr : r.target = Module.typingsPath text) : Requested d root top r where
  admits := by
    refine admits_of_chosen g hc hopen hr ?_
    obtain ⟨above', x', es, -, hx, hd, hpath⟩ := g.exists_entry hdir hc
    rw [hpath]
    exact Watch.not_dangling_of_no_links g hn hd (plain_append_ending hx)
  retypes := ⟨text, hc.isModule, hr⟩

theorem goes_file {above : Location} {x : Name} {m : Node} (hm : n.at? (above ++ [x]) = some m)
    (hk : m.kind ≠ .dir) (hkept : Kept e root (above ++ [x])) (hopen : Opened d root top above) :
    Goes t e d root top n (above ++ [x] <+: ·)
      [.visit (pathBelow root (above ++ [x])) m.kind] := by
  have ho := intact_outlasts g hn
  have honly : ∀ l task, Item e root n l task → above ++ [x] <+: l → l = above ++ [x] := by
    intro l task hitem hp
    cases hitem with
    | enter hd => exact eq_of_prefix_of_not_dir hm hk hd hp
    | visit hm' => exact eq_of_prefix_of_not_dir hm hk hm' hp
  cases hsheet : stylesheet? (pathBelow root (above ++ [x])) with
  | none =>
    refine goes_unlisted hk hsheet ho fun l task hp hitem ↦ ?_
    obtain rfl := honly l task hitem hp
    cases hitem with
    | enter hd =>
      rw [hm] at hd
      cases hd
      exact hk rfl
    | visit hm' hc =>
      rw [hc.stylesheet?_eq] at hsheet
      cases hsheet
  | some text =>
    have hc := ((chosen_file_iff hm hk hkept).2 ⟨rfl, hsheet⟩).2
    refine goes_item (.visit hm hc) (fun above' x' hl ↦ ?_) ho List.prefix_rfl
      (fun l task hitem hp ↦ .inl (honly l task hitem hp)) fun d' gain _ hgain ↦ ?_
    · obtain ⟨rfl, -⟩ := List.append_inj' hl rfl
      exact hopen
    · rw [gain_of_stylesheet hk hsheet] at hgain
      obtain ⟨content, names, -, -, rfl⟩ := sheetGain_eq_ok_iff.1 hgain
      refine ⟨fun r hr ↦ ?_, Goes.nil.congr fun l task hitem ↦ ⟨False.elim, fun ⟨hp, hlt⟩ ↦ ?_⟩⟩
      · cases hr
        exact requested_of_chosen g hdir hn hc hopen rfl
      · obtain rfl := honly l task hitem hp
        exact List.lt_irrefl _ hlt

omit hdir in
theorem goes_composes : Composes root n fun part _ tasks ↦ Goes t e d root top n part tasks where
  nil := .nil
  append := .append
  made hnone hx := goes_unlisted (by simp) (stylesheet?_made hx) (intact_outlasts g hn)
    fun l task hp hitem ↦ by
      obtain ⟨rest, rfl⟩ := hp
      obtain ⟨m, hm⟩ := hitem.exists_at?
      rw [Node.at?_append, hnone] at hm
      cases hm

omit hdir in
theorem goes_enter {l : Location} {es : List (Name × Node)} (hd : n.at? l = some (.dir es))
    (hkept : Kept e root l) (he : e.excludes (Text.lossy (pathBelow root l)) = false)
    (habove : ∀ above x, l = above ++ [x] → Opened d root top above)
    (ih : Opened d root top l → ∀ name child, n.at? (l ++ [name]) = some child →
      Goes t e d root top n (l ++ [name] <+: ·)
        [.visit (pathBelow root (l ++ [name])) child.kind]) :
    Goes t e d root top n (l <+: ·) [.enter (pathBelow root l)] := by
  have hfirst : ∀ {l'}, l <+: l' → l' = l ∨ l < l' := by
    intro l' hp
    by_cases heq : l' = l
    · exact .inl heq
    · exact .inr (lt_of_prefix_ne hp heq)
  refine goes_item (.enter hd hkept he) habove (intact_outlasts g hn) List.prefix_rfl
    (fun _ _ _ ↦ hfirst) fun d' gain hintact hgain ↦ ?_
  simp only [Task.gain] at hgain
  cases hlist : d'.list (pathBelow root l) with
  | error fault =>
    rw [hlist] at hgain
    cases hgain
  | ok listed =>
    rw [hlist] at hgain
    cases hgain
    obtain ⟨location, es', hlookup, -, rfl⟩ := Disk.list_eq_ok_iff.1 hlist
    obtain ⟨hopen, rfl⟩ := g.opened hintact.keeps hd hlookup
    have hd' := (Disk.lookup_eq_ok_iff.1 hlookup).2.at?_eq
    obtain ⟨entries, hvisits, hlisting⟩ := exists_listing g hintact.keeps hd hd'
    refine ⟨by simp, ?_⟩
    rw [hvisits]
    have hgoes := (goes_composes (t := t) (e := e) g hn).entries entries hlisting.listed
      hlisting.ordered (ih ⟨es, hopen⟩)
    refine hgoes.congr fun l' task hitem ↦ ⟨?_, ?_⟩
    · rintro ⟨entry, -, hp⟩
      have hbelow := (List.prefix_append l _).trans hp
      refine ⟨hbelow, lt_of_prefix_ne hbelow ?_⟩
      rintro rfl
      simpa using hp.length_le
    · rintro ⟨hp, hlt⟩
      obtain ⟨m, hm⟩ := hitem.exists_at?
      have hne : l' ≠ l := by
        rintro rfl
        exact List.lt_irrefl _ hlt
      obtain ⟨name, child, hchild, hp⟩ := exists_name_of_prefix hd hp hm hne
      obtain ⟨m', hm'⟩ := exists_listed g hintact.keeps hd hd' hchild
      exact ⟨(name, m'.kind), (hlisting.mem_iff _).2 ⟨m', hm', rfl⟩, hp⟩

omit hdir in
theorem goes_dir {l : Location} {es : List (Name × Node)} (hd : n.at? l = some (.dir es))
    (hkept : Kept e root l)
    (habove : ∀ above x, l = above ++ [x] → Opened d root top above)
    (ih : Opened d root top l → ∀ name child, n.at? (l ++ [name]) = some child →
      Kept e root (l ++ [name]) → Goes t e d root top n (l ++ [name] <+: ·)
        [.visit (pathBelow root (l ++ [name])) child.kind]) :
    Goes t e d root top n (l <+: ·) [.visit (pathBelow root l) .dir] := by
  have ho := intact_outlasts g hn
  cases he : e.excludes (Text.lossy (pathBelow root l)) with
  | true =>
    -- Nothing in an excluded directory is looked at.
    have hnone : ∀ l' task, l <+: l' → ¬Item e root n l' task := by
      intro l' task hp hitem
      have hkept' : l' ≠ l → False := fun hne ↦ by
        have hfalse := hitem.kept l hp (Ne.symm hne)
        rw [he] at hfalse
        cases hfalse
      by_cases heq : l' = l
      · subst heq
        cases hitem with
        | enter _ _ hfalse =>
          rw [he] at hfalse
          cases hfalse
        | visit _ hc => exact hc.not_dir hd rfl
      · exact hkept' heq
    have hnil : Goes t e d root top n (l <+: ·) [] :=
      Goes.nil.congr fun l' task hitem ↦ ⟨False.elim, fun hp ↦ hnone l' task hp hitem⟩
    exact goes_quiet rfl (fun d' ↦ by rw [Task.gain, if_pos he]) rfl ho hnil
  | false =>
    exact goes_quiet rfl (fun d' ↦ by rw [Task.gain, if_neg (by simp [he])]) rfl ho
      (goes_enter g hn hd hkept he habove fun hopen name child hchild ↦
        ih hopen name child hchild (hkept.append_name he name))

theorem goes_entry {m : Node} {l : Location} (hm : n.at? l = some m) (hkept : Kept e root l)
    (habove : ∀ above x, l = above ++ [x] → Opened d root top above) :
    Goes t e d root top n (l <+: ·) [.visit (pathBelow root l) m.kind] := by
  refine entry_induction (motive := fun l m ↦
      Goes t e d root top n (l <+: ·) [.visit (pathBelow root l) m.kind])
    (goes_dir g hn) (goes_file g hdir hn) hm hkept habove ?_
  by_cases hl : l = []
  · subst hl
    rw [Node.at?_nil] at hm
    cases hm
    exact .inl hdir
  · exact .inr hl

end Ground

end StyleTypings.Walk
