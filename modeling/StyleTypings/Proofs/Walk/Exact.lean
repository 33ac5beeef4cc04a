import StyleTypings.Proofs.Walk.Visits

namespace StyleTypings.Walk

open Disk (Location Node)
open World (Tame targets)

variable {t : Toolchain} {e : Exclusion}

theorem lists_of_run {d : Disk} {root : Text.Bytes} {top : Location} {n : Node}
    (g : Ground d root top n)
    (hdangling : t.sink = .writer → ∀ l text, Chosen e root n l text →
      ¬Disk.Dangling d (Text.encode (Module.typingsPath text)))
    {fuel : Nat} {w last : World} {answer : Summary}
    (hfuel : weight (some n) ≤ fuel) (hqueue : w.writer.queue = []) (hw : w.disk = d)
    (h : Returns t e fuel ⟨[.visit root n.kind], {}⟩ w answer last) :
    ∃ found pruned, Lists e root n (fun _ ↦ True) found pruned ∧
      answer = ⟨found.map (Module.typingsPath ·.2), pruned.map (Text.lossy ∘ pathBelow root)⟩ ∧
      targets last.calls = targets w.calls ++ found.map (Module.typingsPath ·.2) := by
  by_cases hk : n.kind = .dir
  · have htame : Tame (Keeps d) (Admits d root top) w := by
      subst hw
      exact ⟨⟨g.wellFormed, .refl _ _⟩, by simp [hqueue]⟩
    have hwalks := walks_entry g hdangling (Node.at?_nil n) (kept_nil e root) (by simp) (.inl hk)
    obtain ⟨found, pruned, fuel', w', hlists, -, -, htargets, hreturns⟩ :=
      hwalks [] _ fuel w answer last hfuel htame h
    obtain ⟨rfl, rfl⟩ := hreturns.done
    exact ⟨found, pruned, hlists.congr (by simp) (by simp), by simp, htargets⟩
  · have hpos : 0 < weight (some n) := by
      have := size_pos n
      simp only [weight]
      omega
    obtain ⟨fuel, rfl⟩ := Nat.exists_eq_succ_of_ne_zero (by omega : fuel ≠ 0)
    obtain ⟨p, w', hstep, hreturns⟩ := h.step
    obtain ⟨target, hvisit, rfl⟩ := step_visit_file hk hstep
    obtain ⟨rfl, htargets, -⟩ := visitFile_ok hvisit
    obtain ⟨rfl, rfl⟩ := hreturns.done
    have hlists : Lists e root n ([] <+: ·)
        ((stylesheet? (pathBelow root [])).toList.map ([], ·)) [] :=
      lists_file (Node.at?_nil n) hk (kept_nil e root)
    refine ⟨_, [], hlists.congr (by simp) (by simp), ?_, ?_⟩
    · cases hs : stylesheet? root <;> simp [pathBelow, hs]
    · rw [htargets]
      cases hs : stylesheet? root <;> simp [pathBelow, hs]

/-- A walk from a directory or a file that succeeds has submitted the typings of every module
stylesheet that lies in no excluded directory, each of them once, in the order of the names below
the root; and it tells the excluded directories that it came to in the same order. Typings must not
be written through links to nothing, which would put new entries into the tree. -/
theorem fromDirectory_exact {root : String} {w w' : World} {n : Node} {s : Summary}
    (hwf : w.disk.top.WellFormed) (hnode : w.disk.node (Text.encode root) false = .ok n)
    (hlink : n.kind ≠ .link) (hqueue : w.writer.queue = [])
    (hdangling : t.sink = .writer → ∀ l text, Chosen e (Text.encode root) n l text →
      ¬Disk.Dangling w.disk (Text.encode (Module.typingsPath text)))
    (h : (fromDirectory t e root).run w = (.ok s, w')) :
    ∃ (found : List (Location × String)) (pruned : List Location),
      found.Pairwise (·.1 < ·.1) ∧
      (∀ l text, (l, text) ∈ found ↔ Chosen e (Text.encode root) n l text) ∧
      pruned.Pairwise (· < ·) ∧
      (∀ l, l ∈ pruned ↔ Pruned e (Text.encode root) n l) ∧
      s.generated = found.map (Module.typingsPath ·.2) ∧
      s.excluded = pruned.map (fun l ↦ Text.lossy (pathBelow (Text.encode root) l)) ∧
      targets w'.calls = targets w.calls ++ s.generated := by
  obtain ⟨top, hlookup⟩ : ∃ top, w.disk.lookup (Text.encode root) false = .ok (.found top n) := by
    unfold Disk.node at hnode
    split at hnode
    next location m hl =>
      cases hnode
      exact ⟨location, hl⟩
    · cases hnode
    · cases hnode
  obtain ⟨hfollowable, hleads⟩ := Disk.lookup_eq_ok_iff.1 hlookup
  have g : Ground w.disk (Text.encode root) top n :=
    ⟨hwf, Disk.lookup_eq_ok_iff.2 ⟨hfollowable, hleads.followLast_true hlink⟩⟩
  have hstart : start w.disk (Text.encode root) = .ok [.visit (Text.encode root) n.kind] := by
    unfold start
    rw [hnode]
    cases n with
    | link target => exact absurd rfl hlink
    | file _ _ | dir _ => rfl
  have hreturns :
      Returns t e (taskBound w.disk) ⟨[.visit (Text.encode root) n.kind], {}⟩ w s w' := by
    unfold fromDirectory at h
    simp only [World.run_bind, World.run_get, hstart] at h
    exact h
  have hfuel : weight (some n) ≤ taskBound w.disk := by
    have := size_le_of_at? hleads.at?_eq
    simp only [weight, taskBound]
    omega
  obtain ⟨found, pruned, hlists, rfl, htargets⟩ :=
    lists_of_run g hdangling hfuel hqueue rfl hreturns
  exact ⟨found, pruned, hlists.found_sorted, by simp [hlists.mem_found], hlists.pruned_sorted,
    by simp [hlists.mem_pruned], rfl, rfl, htargets⟩

def smallDisk : Disk where
  top := .dir [([115], .dir [([118], .dir []), (Text.encode "a.module.css", .file [] false)])]

def smallTools : Toolchain := ⟨.unavailable, .passthrough, .nowhere⟩

theorem run_cons {fuel : Nat} {task : Task} {later : List Task} {s : Summary} {w w' : World}
    {p : Progress} (h : (step t e ⟨task :: later, s⟩).run w = (.ok p, w')) :
    (run t e (fuel + 1) ⟨task :: later, s⟩).run w = (run t e fuel p).run w' := by
  conv => lhs; unfold run
  simp only [World.run_bind, h]

theorem exists_visitFile_small : ∃ w',
    (visitFile smallTools (Text.encode "s/a.module.css")).run { disk := smallDisk } =
      (.ok (some "s/a.module.css.d.ts"), w') := by
  have hmodule : Module.isModule "s/a.module.css" = true := by decide +kernel
  have hread : smallDisk.readText (Text.encode "s/a.module.css") = .ok "" := by cbv
  have hnames : smallTools.namesOf smallDisk "" "s/a.module.css" = .ok [] := by cbv
  obtain ⟨noted, -, hvisit⟩ := exists_run_visitFile (t := smallTools) (w := { disk := smallDisk })
    hmodule rfl hread hnames
  exact ⟨_, hvisit⟩

theorem exists_run_small : ∃ w', (fromDirectory smallTools (some (· == "s/v")) "s").run
    { disk := smallDisk } = (.ok ⟨["s/a.module.css.d.ts"], ["s/v"]⟩, w') := by
  obtain ⟨w', hvisit⟩ := exists_visitFile_small
  have hstart : start smallDisk (Text.encode "s") = .ok [.visit (Text.encode "s") .dir] := by cbv
  have hdir : (step smallTools (some (· == "s/v")) ⟨[.visit (Text.encode "s") .dir], {}⟩).run
      { disk := smallDisk } = (.ok ⟨[.enter (Text.encode "s")], {}⟩, { disk := smallDisk }) := by
    cbv
  have henter : (step smallTools (some (· == "s/v")) ⟨[.enter (Text.encode "s")], {}⟩).run
      { disk := smallDisk } = (.ok ⟨[.visit (Text.encode "s/a.module.css") .file,
        .visit (Text.encode "s/v") .dir], {}⟩, { disk := smallDisk }) := by cbv
  have hfile : (step smallTools (some (· == "s/v"))
      ⟨[.visit (Text.encode "s/a.module.css") .file, .visit (Text.encode "s/v") .dir], {}⟩).run
      { disk := smallDisk } =
        (.ok ⟨[.visit (Text.encode "s/v") .dir], ⟨["s/a.module.css.d.ts"], []⟩⟩, w') := by
    simp only [step, World.run_bind, hvisit]
    rfl
  have hskip : (step smallTools (some (· == "s/v"))
      ⟨[.visit (Text.encode "s/v") .dir], ⟨["s/a.module.css.d.ts"], []⟩⟩).run w' =
        (.ok ⟨[], ⟨["s/a.module.css.d.ts"], ["s/v"]⟩⟩,
          ((World.say (.directoryExcluded "s/v")).run w').2) := by
    have hlossy : Text.lossy (Text.encode "s/v") = "s/v" := by cbv
    simp only [step, hlossy]
    rfl
  have hbound : taskBound smallDisk = 20 := by cbv
  refine ⟨((World.say (.directoryExcluded "s/v")).run w').2, ?_⟩
  unfold fromDirectory
  simp only [World.run_bind, World.run_get, hstart, hbound]
  rw [run_cons hdir, run_cons henter, run_cons hfile, run_cons hskip]
  rfl

theorem wellFormed_smallDisk : smallDisk.top.WellFormed := by
  have hname : Text.encode "a.module.css" =
      [97, 46, 109, 111, 100, 117, 108, 101, 46, 99, 115, 115] := by cbv
  have hs :
      (Node.dir [([118], .dir []), (Text.encode "a.module.css", .file [] false)]).WellFormed := by
    rw [hname]
    refine Node.wellFormed_of_entries (by decide) (by decide) ?_
    simp [Node.wellFormed_empty, Node.wellFormed_of_not_dir]
  exact Node.wellFormed_entry (by decide) hs

/-- On the small tree a walk finds the one stylesheet and the one directory to skip. -/
theorem fromDirectory_exact_small : ∃ w', (fromDirectory smallTools (some (· == "s/v")) "s").run
    { disk := smallDisk } = (.ok ⟨["s/a.module.css.d.ts"], ["s/v"]⟩, w') ∧
    targets w'.calls = ["s/a.module.css.d.ts"] := by
  obtain ⟨w', h⟩ := exists_run_small
  obtain ⟨found, pruned, -, -, -, -, -, -, htargets⟩ :=
    fromDirectory_exact wellFormed_smallDisk (by cbv) (by decide) rfl (by simp [smallTools]) h
  exact ⟨w', h, htargets⟩

def leakyNode (made : List (Disk.Name × Node)) : Node :=
  .dir [(Text.encode "a.module.css", .file [] false),
    (Text.encode "a.module.css.d.ts", .link (Text.encode "z/x.module.css")), ([122], .dir made)]

def leakyDisk (made : List (Disk.Name × Node)) : Disk where
  top := .dir [([115], leakyNode made)]

def leakyTools : Toolchain := ⟨.unavailable, ⟨fun _ _ _ ↦ .ok ""⟩, .writer⟩

def leaked : List (Disk.Name × Node) := [(Text.encode "x.module.css", .file [] false)]

theorem exists_visitFile_leaky (d d' : Disk) (text : String) (log : List (Thread × Log.Event))
    (calls : List Call) (hmodule : Module.isModule text = true)
    (hread : d.readText (Text.encode text) = .ok "")
    (hnames : leakyTools.namesOf d "" text = .ok [])
    (hwrite : d.write (Text.encode (Module.typingsPath text)) (Text.encode "") = .ok d') :
    ∃ log' calls', (visitFile leakyTools (Text.encode text)).run { disk := d, log, calls } =
      (.ok (some (Module.typingsPath text)), { disk := d', log := log', calls := calls' }) := by
  obtain ⟨noted, hnoted, hvisit⟩ := exists_run_visitFile (t := leakyTools)
    (w := { disk := d, log, calls }) hmodule rfl hread hnames
  obtain ⟨log', calls', rfl⟩ := hnoted.eq
  rw [World.run_submit_of_writer _ rfl, World.run_submit_of_idle _ rfl rfl hwrite] at hvisit
  exact ⟨_, _, hvisit⟩

theorem exists_run_leaked (log : List (Thread × Log.Event)) (calls : List Call) :
    ∃ w', (run leakyTools none 21 ⟨[.visit (Text.encode "s/a.module.css.d.ts") .link,
      .visit (Text.encode "s/z") .dir], ⟨["s/a.module.css.d.ts"], []⟩⟩).run
        { disk := leakyDisk leaked, log, calls } =
          (.ok ⟨["s/a.module.css.d.ts", "s/z/x.module.css.d.ts"], []⟩, w') := by
  have hlink : (step leakyTools none ⟨[.visit (Text.encode "s/a.module.css.d.ts") .link,
      .visit (Text.encode "s/z") .dir], ⟨["s/a.module.css.d.ts"], []⟩⟩).run
      { disk := leakyDisk leaked, log, calls } =
        (.ok ⟨[.visit (Text.encode "s/z") .dir], ⟨["s/a.module.css.d.ts"], []⟩⟩,
          { disk := leakyDisk leaked, log, calls }) := by
    have hmodule : Module.isModule "s/a.module.css.d.ts" = false := by decide +kernel
    simp only [step, visitFile, Text.decode?_eq_some_iff.2 rfl, hmodule]
    rfl
  have hdir : (step leakyTools none ⟨[.visit (Text.encode "s/z") .dir],
      ⟨["s/a.module.css.d.ts"], []⟩⟩).run { disk := leakyDisk leaked, log, calls } =
        (.ok ⟨[.enter (Text.encode "s/z")], ⟨["s/a.module.css.d.ts"], []⟩⟩,
          { disk := leakyDisk leaked, log, calls }) := by cbv
  have henter : (step leakyTools none ⟨[.enter (Text.encode "s/z")],
      ⟨["s/a.module.css.d.ts"], []⟩⟩).run { disk := leakyDisk leaked, log, calls } =
        (.ok ⟨[.visit (Text.encode "s/z/x.module.css") .file], ⟨["s/a.module.css.d.ts"], []⟩⟩,
          { disk := leakyDisk leaked, log, calls }) := by cbv
  obtain ⟨log', calls', hvisit⟩ := exists_visitFile_leaky (leakyDisk leaked)
    (leakyDisk (leaked ++ [(Text.encode "x.module.css.d.ts", .file [] false)]))
    "s/z/x.module.css" log calls (by decide +kernel) (by cbv) (by cbv) (by cbv)
  have hfile : (step leakyTools none ⟨[.visit (Text.encode "s/z/x.module.css") .file],
      ⟨["s/a.module.css.d.ts"], []⟩⟩).run { disk := leakyDisk leaked, log, calls } =
        (.ok ⟨[], ⟨["s/a.module.css.d.ts", "s/z/x.module.css.d.ts"], []⟩⟩,
          { disk := leakyDisk (leaked ++ [(Text.encode "x.module.css.d.ts", .file [] false)]),
            log := log', calls := calls' }) := by
    simp only [step, World.run_bind, hvisit]
    rfl
  rw [run_cons hlink, run_cons hdir, run_cons henter, run_cons hfile]
  exact ⟨_, rfl⟩

theorem exists_run_leaky : ∃ w', (fromDirectory leakyTools none "s").run { disk := leakyDisk [] } =
    (.ok ⟨["s/a.module.css.d.ts", "s/z/x.module.css.d.ts"], []⟩, w') := by
  have hstart : start (leakyDisk []) (Text.encode "s") =
      .ok [.visit (Text.encode "s") .dir] := by cbv
  have hdir : (step leakyTools none ⟨[.visit (Text.encode "s") .dir], {}⟩).run
      { disk := leakyDisk [] } =
        (.ok ⟨[.enter (Text.encode "s")], {}⟩, { disk := leakyDisk [] }) := by cbv
  have henter : (step leakyTools none ⟨[.enter (Text.encode "s")], {}⟩).run
      { disk := leakyDisk [] } = (.ok ⟨[.visit (Text.encode "s/a.module.css") .file,
        .visit (Text.encode "s/a.module.css.d.ts") .link, .visit (Text.encode "s/z") .dir], {}⟩,
          { disk := leakyDisk [] }) := by cbv
  obtain ⟨log, calls, hvisit⟩ := exists_visitFile_leaky (leakyDisk []) (leakyDisk leaked)
    "s/a.module.css" [] [] (by decide +kernel) (by cbv) (by cbv) (by cbv)
  have hfile : (step leakyTools none ⟨[.visit (Text.encode "s/a.module.css") .file,
      .visit (Text.encode "s/a.module.css.d.ts") .link, .visit (Text.encode "s/z") .dir], {}⟩).run
      { disk := leakyDisk [] } = (.ok ⟨[.visit (Text.encode "s/a.module.css.d.ts") .link,
        .visit (Text.encode "s/z") .dir], ⟨["s/a.module.css.d.ts"], []⟩⟩,
          { disk := leakyDisk leaked, log, calls }) := by
    simp only [step, World.run_bind, hvisit]
    rfl
  have hbound : taskBound (leakyDisk []) = 24 := by cbv
  obtain ⟨w', hrest⟩ := exists_run_leaked log calls
  refine ⟨w', ?_⟩
  unfold fromDirectory
  simp only [World.run_bind, World.run_get, hstart, hbound]
  rw [run_cons hdir, run_cons henter, run_cons hfile]
  exact hrest

theorem at?_leakyNode {l : Location} {m : Node} (h : (leakyNode []).at? l = some m) :
    (∃ es, m = .dir es) ∨ l = [Text.encode "a.module.css"] ∨
      l = [Text.encode "a.module.css.d.ts"] := by
  rcases Node.at?_cases h with ⟨-, rfl⟩ | ⟨name, child, rest, rfl, hchild, hat⟩
  · exact .inl ⟨_, rfl⟩
  · have hmem := Node.mem_of_lookup hchild
    simp only [leakyNode, Node.entries, List.mem_cons, Prod.mk.injEq, List.not_mem_nil,
      or_false] at hmem
    rcases hmem with ⟨rfl, rfl⟩ | ⟨rfl, rfl⟩ | ⟨rfl, rfl⟩
    · obtain ⟨rfl, -⟩ := Node.eq_nil_of_at? rfl hat
      exact .inr (.inl rfl)
    · obtain ⟨rfl, -⟩ := Node.eq_nil_of_at? rfl hat
      exact .inr (.inr rfl)
    · obtain ⟨-, rfl⟩ := Node.eq_nil_of_at? rfl hat
      exact .inl ⟨_, rfl⟩

theorem wellFormed_leakyDisk : (leakyDisk []).top.WellFormed := by
  have hsheet : Text.encode "a.module.css" =
      [97, 46, 109, 111, 100, 117, 108, 101, 46, 99, 115, 115] := by cbv
  have htypings : Text.encode "a.module.css.d.ts" =
      [97, 46, 109, 111, 100, 117, 108, 101, 46, 99, 115, 115, 46, 100, 46, 116, 115] := by cbv
  have hnode : (leakyNode []).WellFormed := by
    rw [leakyNode, hsheet, htypings]
    refine Node.wellFormed_of_entries (by decide) (by decide) ?_
    simp [Node.wellFormed_empty, Node.wellFormed_of_not_dir]
  exact Node.wellFormed_entry (by decide) hnode

/-- Where typings are a link to nothing, writing them can give the walk one more stylesheet. -/
theorem fromDirectory_not_exact : (leakyDisk []).top.WellFormed ∧
    ∃ s w', (fromDirectory leakyTools none "s").run { disk := leakyDisk [] } = (.ok s, w') ∧
    (leakyDisk []).node (Text.encode "s") false = .ok (leakyNode []) ∧
    "s/z/x.module.css.d.ts" ∈ s.generated ∧
    ∀ l text, Chosen none (Text.encode "s") (leakyNode []) l text →
      Module.typingsPath text ≠ "s/z/x.module.css.d.ts" := by
  obtain ⟨w', h⟩ := exists_run_leaky
  refine ⟨wellFormed_leakyDisk, _, w', h, by cbv, by simp, fun l text hc htypings ↦ ?_⟩
  obtain ⟨m, hm, hkind⟩ := hc.entry
  have hpath : Text.encode "s/z/x.module.css.d.ts" = pathBelow (Text.encode "s") l ++ ending := by
    rw [← htypings]
    exact encode_typingsPath hc.text_eq
  rcases at?_leakyNode hm with ⟨es, rfl⟩ | rfl | rfl
  · exact hkind rfl
  · exact absurd hpath (by decide +kernel)
  · exact absurd hpath (by decide +kernel)

end StyleTypings.Walk
