import StyleTypings.Proofs.Path.Resolving
import StyleTypings.Proofs.Walk.Exact
import StyleTypings.Proofs.Walk.Interleaved
import StyleTypings.Proofs.Watch.Agreement

namespace StyleTypings.Watch

open Disk (Location Node)
open Text (Bytes encode)
open Walk (Chosen pathBelow)
open Walk.Scene (exists_reachable_sparedDisk node_sparedDisk noLinks_sparedNode sparedDisk
  sparedNode wellFormed_sparedDisk)
open World (targets targets_eq_map)

variable {t : Toolchain} {e : Exclusion}

theorem distinctPaths_eq {paths : List String} (seen : List String)
    (h : ∀ a ∈ seen ++ paths, ∀ b ∈ paths, Path.same a b = true → a = b) :
    distinctPaths seen paths = (paths.filter fun p ↦ !seen.contains p).eraseDups := by
  induction paths generalizing seen with
  | nil => rfl
  | cons p paths ih =>
    have hseen : seen.any (Path.same · p) = seen.contains p := by
      rw [Bool.eq_iff_iff, List.any_eq_true, List.contains_iff_mem]
      constructor
      · rintro ⟨q, hq, hs⟩
        exact h q (by simp [hq]) p (by simp) hs ▸ hq
      · exact fun hp ↦ ⟨p, hp, by simp [Path.same]⟩
    unfold distinctPaths
    rw [hseen]
    cases hp : seen.contains p with
    | true =>
      rw [if_pos rfl, List.filter_cons_of_neg (by simpa using hp)]
      refine ih seen fun a ha b hb ↦ h a ?_ b (List.mem_cons_of_mem _ hb)
      rcases List.mem_append.1 ha with ha | ha <;> simp [ha]
    | false =>
      rw [if_neg (by simp), List.filter_cons_of_pos (by simpa using hp), List.eraseDups_cons,
        List.filter_filter]
      have hrest := ih (p :: seen) fun a ha b hb ↦ h a (by
        rcases List.mem_append.1 ha with ha | ha
        · rcases List.mem_cons.1 ha with rfl | ha <;> simp_all
        · simp [ha]) b (List.mem_cons_of_mem _ hb)
      rw [hrest]
      congr 2
      refine List.filter_congr fun q _ ↦ ?_
      rw [List.contains_cons, Bool.not_or]

section Ground

variable {d : Disk} {root : String} {top : Location} {n : Node}
  (g : Walk.Ground d (encode root) top n) (hroot : Path.Resolved root)
include g hroot

theorem concerns_iff_chosen (hk : n.kind = .dir) {l : Location} {m : Node} {text : String}
    (hm : n.at? l = some m) (hfile : m.kind ≠ .dir)
    (htext : Text.decode? (pathBelow (encode root) l) = some text) :
    concerns e root text = true ↔ Chosen e (encode root) n l text := by
  obtain ⟨names, hnamed, rfl⟩ := hroot
  have hne : l ≠ [] := by
    rintro rfl
    rw [Node.at?_nil] at hm
    cases hm
    exact hfile hk
  rw [concerns, Bool.and_eq_true, Bool.not_eq_true']
  rw [Text.encode_ofList] at htext ⊢
  rw [coversAncestor_eq_false_iff_kept hnamed (g.plain_of_mem hm) hne htext]
  constructor
  · intro h
    exact ⟨⟨m, hm, hfile⟩, htext, h.1, h.2⟩
  · intro hc
    exact ⟨hc.isModule, hc.kept⟩

theorem changedStylesheets_eq {paths : List Bytes}
    (hpaths : ∀ path ∈ paths, ∃ l content executable,
      path = pathBelow (encode root) l ∧ n.at? l = some (.file content executable)) :
    changedStylesheets paths root e =
      ((paths.filterMap Text.decode?).filter fun p ↦ concerns e root p).eraseDups := by
  have hdecoded : ∀ p ∈ (paths.filterMap Text.decode?).filter (concerns e root),
      ∃ l, (∀ x ∈ l, Disk.Plain x) ∧ Text.decode? (pathBelow (encode root) l) = some p := by
    intro p hp
    obtain ⟨path, hpath, htext⟩ := List.mem_filterMap.1 (List.mem_filter.1 hp).1
    obtain ⟨l, content, executable, rfl, hl⟩ := hpaths path hpath
    exact ⟨l, g.plain_of_mem hl, htext⟩
  obtain ⟨names, hnamed, rfl⟩ := hroot
  rw [changedStylesheets, distinctPaths_eq]
  · simp
  · intro a ha b hb hsame
    obtain ⟨l, hl, htext⟩ := hdecoded a (by simpa using ha)
    obtain ⟨l', hl', htext'⟩ := hdecoded b hb
    rw [Text.encode_ofList] at htext htext'
    exact eq_of_same hnamed hl hl' htext htext' hsame

end Ground

/-- For events that name files below a resolved root without links, a watcher selects exactly those
among them whose typings a walk that succeeds has submitted, each of them once, in the order in
which the events name them first. -/
theorem changedStylesheets_eq_submitted {base dir : String} {w w' : World} {n : Node} {s : Summary}
    {paths : List Bytes} (hbase : Path.isAbsolute base = true) (hwf : w.disk.top.WellFormed)
    (hnode : w.disk.node (encode (Path.resolve base dir)) false = .ok n) (hk : n.kind = .dir)
    (hlinks : NoLinks n) (hqueue : w.writer.queue = [])
    (h : (Walk.fromDirectory t e (Path.resolve base dir)).run w = (.ok s, w'))
    (hpaths : ∀ path ∈ paths, ∃ l content executable,
      path = pathBelow (encode (Path.resolve base dir)) l ∧
        n.at? l = some (.file content executable)) :
    ∃ submitted, targets w'.calls = targets w.calls ++ submitted ∧
      changedStylesheets paths (Path.resolve base dir) e =
        ((paths.filterMap Text.decode?).filter fun p ↦
          submitted.contains (Module.typingsPath p)).eraseDups := by
  have hroot := Path.resolved_resolve hbase dir
  generalize Path.resolve base dir = root at *
  have hlink : n.kind ≠ .link := by simp [hk]
  obtain ⟨top, g, hfuel⟩ := Walk.exists_ground hwf hnode hlink
  rw [Walk.run_fromDirectory (Walk.start_of_node hnode hlink)] at h
  have hdangling : t.sink = .writer → ∀ l text, Chosen e (encode root) n l text →
      ¬Disk.Dangling w.disk (encode (Module.typingsPath text)) := by
    intro _ l text hc
    obtain ⟨above, x, es, -, hx, hd, hpath⟩ := g.exists_entry hk hc
    rw [hpath]
    exact not_dangling_of_no_links g hlinks hd (Walk.plain_append_ending hx)
  obtain ⟨found, pruned, hlists, -, htargets⟩ :=
    Walk.lists_of_run g hdangling hfuel hqueue rfl h
  refine ⟨found.map (Module.typingsPath ·.2), htargets, ?_⟩
  rw [changedStylesheets_eq g hroot hpaths]
  congr 1
  refine List.filter_congr fun p hp ↦ ?_
  obtain ⟨path, hpath, htext⟩ := List.mem_filterMap.1 hp
  obtain ⟨l, content, executable, rfl, hl⟩ := hpaths path hpath
  rw [Bool.eq_iff_iff, concerns_iff_chosen g hroot hk hl (by simp [Node.kind]) htext,
    List.contains_iff_mem, List.mem_map]
  constructor
  · intro hc
    exact ⟨(l, p), (hlists.mem_found l p).2 ⟨trivial, hc⟩, rfl⟩
  · rintro ⟨⟨l', p'⟩, hfound, heq⟩
    obtain rfl := typingsPath_injective heq
    have hc := ((hlists.mem_found l' _).1 hfound).2
    obtain ⟨m, hm, hfile⟩ := hc.entry
    have hboth := (concerns_iff_chosen (e := e) g hroot hk hm hfile hc.text_eq).2 hc
    exact (concerns_iff_chosen g hroot hk hl (by simp [Node.kind]) htext).1 hboth

theorem exists_run_sparedDisk : ∃ w, (Walk.fromDirectory writingTools skipping "/s").run
      { disk := sparedDisk } = (.ok ⟨["/s/a.module.css.d.ts"], ["/s/v"]⟩, w) ∧
    targets w.calls = ["/s/a.module.css.d.ts"] := by
  obtain ⟨s, hreach, -, -, hsubmitted, hfinished⟩ :=
    exists_reachable_sparedDisk (.failed .noSpace none) rfl
  obtain ⟨top, hground, hbound⟩ :=
    Walk.exists_ground wellFormed_sparedDisk node_sparedDisk (by simp [sparedNode, Node.kind])
  have c : Walk.Calm writingTools sparedDisk (encode "/s") top sparedNode :=
    ⟨hground, rfl, noLinks_sparedNode, ⟨fun _ _ ↦ rfl, fun _ _ ↦ rfl⟩, rfl⟩
  obtain ⟨s', w, hrun, hfollows, hsame⟩ := hreach.exists_run c node_sparedDisk hbound hfinished.1
    (Walk.Scene.shows_begin sparedDisk "/s" [])
  refine ⟨w, hrun, ?_⟩
  rw [targets_eq_map, hfollows.shows.requests_eq, hsame, hsubmitted, List.map_singleton]
  rfl

theorem changedStylesheets_spared : ∃ w,
    (Walk.fromDirectory writingTools skipping (Path.resolve "/" "s")).run { disk := sparedDisk } =
        (.ok ⟨["/s/a.module.css.d.ts"], ["/s/v"]⟩, w) ∧
      targets w.calls = ["/s/a.module.css.d.ts"] ∧
      changedStylesheets [encode sheet, encode "/s/v/x.module.css", encode sheet]
        (Path.resolve "/" "s") skipping = [sheet] := by
  have hroot : Path.resolve "/" "s" = "/s" := by cbv
  obtain ⟨w, hrun, htargets⟩ := exists_run_sparedDisk
  rw [← hroot] at hrun
  have hpaths : ∀ path ∈ [encode sheet, encode "/s/v/x.module.css", encode sheet],
      ∃ l content executable, path = pathBelow (encode (Path.resolve "/" "s")) l ∧
        sparedNode.at? l = some (.file content executable) := by
    simp only [List.mem_cons, List.not_mem_nil, or_false, hroot]
    rintro path (rfl | rfl | rfl)
    · exact ⟨[encode "a.module.css"], encode ".b\x7b\x7d", false, by cbv, by cbv⟩
    · exact ⟨[[118], encode "x.module.css"], encode ".b\x7b\x7d", false, by cbv, by cbv⟩
    · exact ⟨[encode "a.module.css"], encode ".b\x7b\x7d", false, by cbv, by cbv⟩
  obtain ⟨submitted, hsubmitted, hchanged⟩ := changedStylesheets_eq_submitted rfl
    wellFormed_sparedDisk (hroot.symm ▸ node_sparedDisk) rfl noLinks_sparedNode rfl hrun hpaths
  obtain rfl : submitted = ["/s/a.module.css.d.ts"] := hsubmitted.symm.trans htargets
  refine ⟨w, hrun, htargets, hchanged.trans ?_⟩
  simp only [List.filterMap_cons, List.filterMap_nil, Text.decode?_eq_some_iff.2 rfl]
  decide +kernel

end StyleTypings.Watch
