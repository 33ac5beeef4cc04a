import StyleTypings.Proofs.Path.Resolving
import StyleTypings.Proofs.Walk.Exact
import StyleTypings.Proofs.Watch.Events
import StyleTypings.Proofs.Watch.Links
import StyleTypings.Proofs.Watch.Walking
import StyleTypings.Proofs.World.Endurance

namespace StyleTypings.Watch

open Disk (Location Node)
open Text (Bytes encode)
open Walk (Chosen Keeps Progress Task pathBelow)
open World (Holds Steady promised)

variable {t : Toolchain} {e : Exclusion} {d : Disk} {root : String} {top : Location} {n : Node}
  {text : String} {l : Location} {s s' : Session}

structure Followed (t : Toolchain) (d : Disk) (e : Exclusion) (root : Bytes) (n : Node)
    (text : String) (l : Location) (s : Session) : Prop where
  steady : Steady (Keeps d) (Wanted e root n) s.world
  sound {p : Progress} : s.phase = .walking p → ∀ task ∈ p.tasks, Sound d e root n task
  covered {p : Progress} : s.phase = .walking p →
    encode text ∈ s.visited ∨ Covered e root n p.tasks l
  current : s.phase = .watching ∨ encode text ∈ s.visited →
    Current t text s.world ∨ s.awaited text ∨ s.missed text

theorem edit_upkeep {root : Bytes} (ha : Apart d e root n text)
    {w : World} (hst : Steady (Keeps d) (Wanted e root n) w) {edited : String} {content : Bytes}
    {disk : Disk} (hpresent : Present root n edited)
    (hfile : (w.disk.fileAt? (encode edited)).isSome)
    (h : w.disk.write (encode edited) content = .ok disk) :
    Steady (Keeps d) (Wanted e root n) { w with disk } ∧
      (¬Shares w.disk text edited → Holds text (Module.typingsPath text) w { w with disk }) := by
  obtain ⟨spot, hspot, hstores⟩ := Disk.exists_stores h
  have hkeeps : Keeps d disk := by
    obtain ⟨spot, executable, hwrote⟩ := Disk.exists_wrote h
    refine ⟨Disk.wellFormed_of_write h hst.disk.wellFormed, hst.disk.grows.trans
      (hwrote.grows fun hnone ↦ ?_)⟩
    obtain ⟨location, hlocation⟩ := Option.isSome_iff_exists.1 hfile
    obtain ⟨c, x, hl⟩ := Disk.fileAt?_eq_some_iff.1 hlocation
    rcases hwrote.way with ⟨hl', -⟩ | ⟨c', x', -, hsome⟩
    · rw [hl] at hl'
      cases hl'
    · rw [hnone] at hsome
      cases hsome
  refine ⟨⟨⟨hkeeps, hst.queue⟩, hst.taking, hst.alive⟩, fun hshares ↦ ⟨?_, ?_⟩⟩
  · exact hstores.seen?_other fun hp ↦ hshares (hp.trans hspot.symm)
  · have htypings : disk.text? (encode (Module.typingsPath text)) =
        w.disk.text? (encode (Module.typingsPath text)) := by
      refine hstores.text?_other fun hp ↦ ha.typings_file edited hpresent ?_
      rw [Shares, ← spot?_eq_of_keeps hst.disk, ← spot?_eq_of_keeps hst.disk, hspot, hp]
    simp only [promised, htypings]

section Setting

variable (hf : Functional t) (hsink : t.sink = .writer) (hroot : Path.Resolved root)
  (g : Setting d e (encode root) top n) (ha : Apart d e (encode root) n text)
  (hc : Chosen e (encode root) n l text)
include hf hsink hroot g ha hc

theorem Followed.step (h : Followed t d e (encode root) n text l s) (hs : Step t e root n s s') :
    Followed t d e (encode root) n text l s' := by
  cases hs with
  | @walk task later summary p w schedule hphase hrun =>
    have hst : Steady (Keeps d) (Wanted e (encode root) n) { s.world with schedule } :=
      h.steady.congr rfl rfl
    have adv := step_advances hf hsink g ha hc hst (h.sound hphase) hrun
    refine ⟨adv.steady, ?_, ?_, fun hseen ↦ ?_⟩
    · rintro _ ⟨⟩
      exact adv.sound
    · rintro _ ⟨⟩
      rcases h.covered hphase with hv | hcovered
      · exact .inl (List.mem_append_right _ hv)
      · exact (adv.covered hcovered).imp_left (List.mem_append_left _)
    · by_cases hby : encode text ∈ visitedBy task
      · exact .inl (adv.current (.inr hby))
      · have hv : encode text ∈ s.visited :=
          (List.mem_append.1 (hseen.resolve_left (by simp))).resolve_left hby
        exact (h.current (.inr hv)).imp_left fun hcurrent ↦
          adv.current (.inl (hcurrent.of_holds hf (.of_eq rfl rfl)))
  | register hphase =>
    have hv : encode text ∈ s.visited :=
      (h.covered hphase).resolve_right fun ⟨_, hm, _⟩ ↦ List.not_mem_nil hm
    refine ⟨h.steady, ?_, ?_, fun _ ↦ h.current (.inr hv)⟩
    · rintro _ ⟨⟩
    · rintro _ ⟨⟩
  | work =>
    obtain ⟨hst, hholds⟩ := h.steady.work (g.serves ha)
    exact ⟨hst, h.sound, h.covered, fun hseen ↦ (h.current hseen).imp_left (·.of_holds hf hholds)⟩
  | @deliver paths w schedule hphase hheard hreact =>
    have hst : Steady (Keeps d) (Wanted e (encode root) n) { s.world with schedule } :=
      h.steady.congr rfl rfl
    obtain ⟨hst', hkept, hbrought⟩ := react_upkeep hf hsink hroot g ha hc hheard hst hreact
    refine ⟨hst', h.sound, h.covered, fun _ ↦ ?_⟩
    by_cases hp : encode text ∈ paths
    · exact .inl (hbrought rfl hp)
    · refine (h.current (.inl hphase)).imp (fun hcurrent ↦ ?_) (.imp (⟨·, hp⟩) (⟨·, hp⟩))
      exact hkept (hcurrent.of_holds hf (.of_eq rfl rfl))
  | @stop paths fault w schedule hphase hheard hreact =>
    have hst : Steady (Keeps d) (Wanted e (encode root) n) { s.world with schedule } :=
      h.steady.congr rfl rfl
    obtain ⟨hst', hkept, -⟩ := react_upkeep hf hsink hroot g ha hc hheard hst hreact
    refine ⟨hst', nofun, nofun, fun _ ↦ (h.current (.inl hphase)).imp_left fun hcurrent ↦ ?_⟩
    exact hkept (hcurrent.of_holds hf (.of_eq rfl rfl))
  | @editEarly p edited content disk hphase hpresent hfile hwrite =>
    obtain ⟨hst, hholds⟩ := edit_upkeep ha h.steady hpresent hfile hwrite
    refine ⟨hst, h.sound, h.covered, fun hseen ↦ ?_⟩
    have hv : encode text ∈ s.visited := hseen.resolve_left (by simp [hphase])
    by_cases hshares : Shares s.world.disk text edited
    · exact .inr (.inr (.inr ⟨hshares, hv⟩))
    · exact (h.current hseen).imp (·.of_holds hf (hholds hshares)) (.imp_right .inl)
  | @editLate edited content disk hphase hpresent hfile hwrite =>
    obtain ⟨hst, hholds⟩ := edit_upkeep ha h.steady hpresent hfile hwrite
    refine ⟨hst, h.sound, h.covered, fun hseen ↦ ?_⟩
    by_cases hedited : text = edited
    · exact .inr (.inl (.inr hedited))
    · by_cases hshares : Shares s.world.disk text edited
      · exact .inr (.inr ⟨hedited, .inr hshares⟩)
      · exact (h.current hseen).imp (·.of_holds hf (hholds hshares))
          (.imp .inl fun hmissed ↦ ⟨hedited, .inl hmissed⟩)

omit hf hsink hroot in
theorem followed_begin {w : World} {tasks : List Task} (hd : w.disk = d) (hw : w.writer = {})
    (hstart : Walk.start d (encode root) = .ok tasks) :
    Followed t d e (encode root) n text l (.begin w tasks) := by
  subst hd
  obtain ⟨es, rfl⟩ : ∃ es, n = .dir es := by
    have := g.directory
    cases n with
    | dir es => exact ⟨es, rfl⟩
    | file _ _ | link _ => cases this
  have hat : (Node.dir es).at? [] = some (.dir es) := Node.at?_nil _
  have hkept : e.excludes (Text.lossy (pathBelow (encode root) [])) = false :=
    hc.kept [] List.nil_prefix (g.ne_nil hc).symm
  have hvisit : Lies e (encode root) (.dir es) [] (.visit (encode root) .dir) := .visit hat
  have henter : Lies e (encode root) (.dir es) [] (.enter (encode root)) := .enter hat hkept
  refine ⟨⟨⟨⟨g.wellFormed, .refl _ _⟩, by simp [Session.begin, hw]⟩, by simp [Session.begin, hw],
    by simp [Session.begin, hw]⟩, ?_, ?_, fun hseen ↦ ?_⟩
  · rintro _ ⟨⟩ task hm
    rcases g.start_cases hstart with rfl | rfl
    · obtain rfl := List.mem_singleton.1 hm
      exact .lies hvisit (Walk.kept_nil _ _)
    · rcases List.mem_cons.1 hm with rfl | hm
      · refine .idle rfl (by simp) fun other _ hspot ↦ ?_
        rw [show encode root = pathBelow (encode root) [] from rfl, g.spot?_of_dir hat] at hspot
        cases hspot
      · obtain rfl := List.mem_singleton.1 hm
        exact .lies henter (Walk.kept_nil _ _)
  · rintro _ ⟨⟩
    right
    rcases g.start_cases hstart with rfl | rfl
    · exact ⟨_, List.mem_cons_self .., [], hvisit, List.nil_prefix⟩
    · exact ⟨_, List.mem_cons_of_mem _ (List.mem_cons_self ..), [], henter, List.nil_prefix⟩
  · simp [Session.begin] at hseen

theorem Reachable.followed {w : World} {tasks : List Task} (hd : w.disk = d) (hw : w.writer = {})
    (hstart : Walk.start d (encode root) = .ok tasks)
    (h : Reachable t e root n (.begin w tasks) s) :
    Followed t d e (encode root) n text l s := by
  induction h with
  | start => exact followed_begin g ha hc hd hw hstart
  | next _ step ih => exact ih.step hf hsink hroot g ha hc step

end Setting

/-- A run that watches loses an edit only if it comes between the walk's reading and the watcher, or
through another path than the stylesheet's own. -/
theorem Reachable.typings_current {base dir : String} {w : World} {tasks : List Task}
    (hbase : Path.isAbsolute base = true) (hf : Functional t) (hsink : t.sink = .writer)
    (hw : w.writer = {}) (g : Setting w.disk e (encode (Path.resolve base dir)) top n)
    (hstart : Walk.start w.disk (encode (Path.resolve base dir)) = .ok tasks)
    (h : Reachable t e (Path.resolve base dir) n (.begin w tasks) s)
    (hphase : s.phase = .watching) (hqueue : s.world.writer.queue = [])
    (hawaited : ∀ other, ¬s.awaited other)
    (hc : Chosen e (encode (Path.resolve base dir)) n l text)
    (ha : Apart w.disk e (encode (Path.resolve base dir)) n text) (hmissed : ¬s.missed text)
    {content : String} {names : List String}
    (hread : s.world.disk.readText (encode text) = .ok content)
    (hnames : t.namesOf s.world.disk content text = .ok names) :
    s.world.disk.contents (encode (Module.typingsPath text)) = .ok (encode
      (t.formattedText s.world.disk (Typings.render names) (Module.typingsPath text))) := by
  have hfollowed := h.followed hf hsink (Path.resolved_resolve hbase dir) g ha hc rfl hw hstart
  have hcurrent : Current t text s.world :=
    (hfollowed.current (.inl hphase)).resolve_right fun h ↦ h.elim (hawaited text) hmissed
  have hpromised := hcurrent content names (Disk.seen?_eq_some_iff.2 hread) hnames
  rw [World.promised_of_idle hqueue] at hpromised
  exact Disk.text?_eq_some_iff.1 hpromised

def sheetNode (content : Bytes) : Node :=
  .dir [([118], .dir []), (encode "a.module.css", .file content false)]

def sheetDisk (content : Bytes) : Disk where
  top := .dir [([115], sheetNode content)]

def sheet : String := "/s/a.module.css"

def writingTools : Toolchain := ⟨.unavailable, .passthrough, .writer⟩

def skipping : Exclusion := some (· == "/s/v")

theorem readText_sheetDisk {content : Bytes} {text : String}
    (htext : Text.decode? content = some text) :
    (sheetDisk content).readText (encode sheet) = .ok text := by
  have hread : (sheetDisk content).read (encode sheet) = .ok content := by cbv
  simp only [Disk.readText, hread, htext]

theorem namesOf_sheet (d : Disk) :
    writingTools.namesOf d ".b\x7b\x7d" sheet = .ok ["b"] := by
  cbv

theorem write_sheetDisk (content content' : Bytes) :
    (sheetDisk content).write (encode sheet) content' = .ok (sheetDisk content') := by
  cbv

theorem at?_sheetNode {content : Bytes} {m : Node} (h : (sheetNode content).at? l = some m) :
    (∃ es, m = .dir es) ∨ l = [encode "a.module.css"] ∧ m = .file content false := by
  rcases Node.at?_cases h with ⟨-, rfl⟩ | ⟨name, child, rest, rfl, hchild, hat⟩
  · exact .inl ⟨_, rfl⟩
  · have hmem := Node.mem_of_lookup hchild
    simp only [sheetNode, Node.entries, List.mem_cons, Prod.mk.injEq, List.not_mem_nil,
      or_false] at hmem
    rcases hmem with ⟨rfl, rfl⟩ | ⟨rfl, rfl⟩
    · obtain ⟨rfl, rfl⟩ := Node.eq_nil_of_at? rfl hat
      exact .inl ⟨_, rfl⟩
    · obtain ⟨rfl, rfl⟩ := Node.eq_nil_of_at? rfl hat
      exact .inr ⟨rfl, rfl⟩

theorem no_links_sheetNode (content : Bytes) : NoLinks (sheetNode content) :=
  noLinks_dir (by simp [noLinks_dir, noLinks_file])

theorem setting_sheetDisk (content : Bytes) :
    Setting (sheetDisk content) skipping (encode "/s") [[115]] (sheetNode content) := by
  have hground : Walk.Ground (sheetDisk content) (encode "/s") [[115]] (sheetNode content) :=
    ⟨Disk.wellFormed_of_write (write_sheetDisk [] content) Walk.wellFormed_smallDisk, by cbv⟩
  refine setting_of_no_links hground rfl (no_links_sheetNode content) fun l text hc ↦ ?_
  obtain ⟨m, hm, hkind⟩ := hc.entry
  rcases at?_sheetNode hm with ⟨es, rfl⟩ | ⟨rfl, -⟩
  · exact absurd rfl hkind
  · have hpath : encode text = encode sheet := by
      rw [Text.decode?_eq_some_iff.1 hc.text_eq]
      cbv
    obtain rfl := Text.encode_injective hpath
    cbv

theorem chosen_sheet (content : Bytes) :
    Chosen skipping (encode "/s") (sheetNode content) [encode "a.module.css"] sheet where
  entry := ⟨.file content false, by cbv, by simp [Node.kind]⟩
  text_eq := Text.decode?_eq_some_iff.2 (by cbv)
  isModule := by decide +kernel
  kept := Walk.Kept.append_name (Walk.kept_nil _ _) (by cbv) _

theorem present_sheet (content : Bytes) : Present (encode "/s") (sheetNode content) sheet :=
  have h := chosen_sheet content
  ⟨_, h.entry, h.text_eq, h.isModule, fun _ _ _ ↦ rfl⟩

structure Ready (d : Disk) (text : String) : Prop where
  read : d.readText (encode sheet) = .ok text
  room : (d.spot? (encode (Module.typingsPath sheet))).isSome
  apart : d.spot? (encode sheet) ≠ d.spot? (encode (Module.typingsPath sheet))

theorem ready_sheetDisk {content : Bytes} {text : String}
    (htext : Text.decode? content = some text) : Ready (sheetDisk content) text := by
  have hset := setting_sheetDisk content
  have hchosen := chosen_sheet content
  exact ⟨readText_sheetDisk htext, hset.writable _ _ hchosen,
    (hset.apart_of_no_links (no_links_sheetNode content) hchosen).typings_file sheet
      (present_sheet content)⟩

theorem Ready.exists_write {d : Disk} {text : String} (h : Ready d text) (typings : String) :
    ∃ disk, d.write (encode (Module.typingsPath sheet)) (encode typings) = .ok disk ∧
      Ready disk text ∧
        disk.contents (encode (Module.typingsPath sheet)) = .ok (encode typings) := by
  obtain ⟨spot, hspot⟩ := Option.isSome_iff_exists.1 h.room
  obtain ⟨disk, hwrite⟩ := Disk.exists_write hspot (encode typings)
  obtain ⟨spot, hspot, hstores⟩ := Disk.exists_stores hwrite
  refine ⟨disk, hwrite, ⟨?_, ?_, ?_⟩, ?_⟩
  · rw [← Disk.seen?_eq_some_iff, hstores.seen?_other fun hs ↦ h.apart (hs.trans hspot.symm),
      Disk.seen?_eq_some_iff]
    exact h.read
  · rw [hstores.spot?_eq]
    exact h.room
  · rw [hstores.spot?_eq, hstores.spot?_eq]
    exact h.apart
  · rw [← Disk.text?_eq_some_iff, hstores.text?_self hspot, Text.decode?_eq_some_iff.2 rfl]

/-- What a run comes to once it has visited the stylesheet, while the writer waits. -/
theorem exists_visited {content : Bytes} {text : String} {names : List String}
    (htext : Text.decode? content = some text)
    (hnames : writingTools.namesOf (sheetDisk content) text sheet = .ok names)
    {n : Node} {first : Session} {awaited missed : String → Prop}
    (h : Reachable writingTools skipping "/s" n first
      ⟨{ disk := sheetDisk content }, .walking ⟨[.visit (encode "/s") .dir], {}⟩, [], awaited,
        missed⟩) :
    ∃ w, w.disk = sheetDisk content ∧
      w.writer = { queue := [writingTools.requestFor w.disk names sheet] } ∧
      w.outputFull = false ∧ Reachable writingTools skipping "/s" n first
        ⟨w, .walking ⟨[.visit (encode "/s/v") .dir], ⟨[Module.typingsPath sheet], []⟩⟩,
          [encode sheet], awaited, missed⟩ := by
  have hdir : (Walk.step writingTools skipping ⟨[.visit (encode "/s") .dir], {}⟩).run
      { disk := sheetDisk content } =
        (.ok ⟨[.enter (encode "/s")], {}⟩, { disk := sheetDisk content }) := by cbv
  have henter : (Walk.step writingTools skipping ⟨[.enter (encode "/s")], {}⟩).run
      { disk := sheetDisk content } =
        (.ok ⟨[.visit (encode sheet) .file, .visit (encode "/s/v") .dir], {}⟩,
          { disk := sheetDisk content }) := by cbv
  have hread := readText_sheetDisk htext
  have hmodule : Module.isModule sheet = true := by decide +kernel
  obtain ⟨noted, hnoted, hvisit⟩ := Walk.exists_run_visitFile (t := writingTools)
    (w := { disk := sheetDisk content, schedule := [0, 0] }) hmodule rfl hread hnames
  obtain ⟨log, calls, rfl⟩ := hnoted.eq
  have hfile : (Walk.step writingTools skipping
      ⟨[.visit (encode sheet) .file, .visit (encode "/s/v") .dir], {}⟩).run
      { disk := sheetDisk content, schedule := [0, 0] } =
        (.ok ⟨[.visit (encode "/s/v") .dir], ⟨[Module.typingsPath sheet], []⟩⟩,
          { disk := sheetDisk content, log,
            calls := calls ++ [.submit (writingTools.requestFor (sheetDisk content) names sheet)]
            writer :=
              { queue := [writingTools.requestFor (sheetDisk content) names sheet] } }) := by
    simp only [Walk.step, World.run_bind, hvisit]
    rfl
  have hvisited := ((h.next (.walk [] rfl hdir)).next (.walk [] rfl henter)).next
    (.walk [0, 0] rfl hfile)
  exact ⟨_, rfl, rfl, rfl, hvisited⟩

theorem exists_watched {w : World} {summary : Summary} {visited : List Bytes}
    {n : Node} {first : Session} {awaited missed : String → Prop}
    (h : Reachable writingTools skipping "/s" n first
      ⟨w, .walking ⟨[.visit (encode "/s/v") .dir], summary⟩, visited, awaited, missed⟩) :
    ∃ w', w'.disk = w.disk ∧ w'.writer = w.writer ∧ w'.outputFull = w.outputFull ∧
      Reachable writingTools skipping "/s" n first
        ⟨w', .watching, visited, awaited, missed⟩ := by
  have hlossy : Text.lossy (encode "/s/v") = "/s/v" := by cbv
  have hskip : (Walk.step writingTools skipping
      ⟨[.visit (encode "/s/v") .dir], summary⟩).run { w with schedule := [] } =
      (.ok ⟨[], { summary with excluded := summary.excluded ++ ["/s/v"] }⟩,
        { w with schedule := [], log := w.log ++ [(.main, .directoryExcluded "/s/v")] }) := by
    simp only [Walk.step, hlossy]
    rfl
  have hwatched := (h.next (.walk [] rfl hskip)).next (.register rfl)
  refine ⟨_, ?_, ?_, ?_, hwatched⟩ <;> rfl

theorem changedStylesheets_sheet :
    changedStylesheets [encode sheet] "/s" skipping = [sheet] := by
  have hdecode : Text.decode? (encode sheet) = some sheet := Text.decode?_eq_some_iff.2 rfl
  simp only [changedStylesheets, List.filterMap_cons, hdecode]
  decide +kernel

theorem exists_run_update {w : World} {text : String} {names : List String} {later : List Nat}
    (hnames : writingTools.namesOf w.disk text sheet = .ok names)
    (hschedule : w.schedule = 0 :: later) (hroom : w.outputFull = false)
    (htaking : w.writer.taking = true) (halive : w.writer.alive = true) :
    ∃ w', (update writingTools sheet (.ok text)).run w = (.ok (), w') ∧ w'.disk = w.disk ∧
      w'.writer = { w.writer with
        queue := w.writer.queue ++ [writingTools.requestFor w.disk names sheet] } := by
  have hm : Module.isModule sheet = true := (chosen_sheet []).isModule
  refine ⟨_, Prod.ext (answer_update hroom hm _) rfl, ?_⟩
  rcases update_cases (t := writingTools) w hm (.ok text) with
    ⟨hnone, -⟩ | ⟨_, _, noted, ⟨⟩, hnames', hnoted, hsame⟩
  · exact absurd hnames (hnone _ _ rfl)
  · obtain rfl := Except.ok.inj (hnames.symm.trans hnames')
    obtain ⟨log, calls, rfl⟩ := hnoted.eq
    have htakes := (Writer.submit?_eq_some_iff (w := w.writer)
      (r := writingTools.requestFor w.disk names sheet)).2 ⟨htaking, halive, rfl⟩
    have hsubmits := World.run_submit_of_some { w with
      log, calls := calls ++ [.submit (writingTools.requestFor w.disk names sheet)] } htakes
    rw [World.run_submit_of_writer _ rfl, hsubmits, World.run_pause] at hsame
    simp only [hschedule] at hsame
    exact ⟨hsame.disk_eq, hsame.writer_eq⟩

/-- Acting on an event that names the stylesheet hands in the request for its typings. -/
theorem exists_run_react {w : World} {text : String} {names : List String} {later : List Nat}
    (hread : w.disk.readText (encode sheet) = .ok text)
    (hnames : writingTools.namesOf w.disk text sheet = .ok names)
    (hschedule : w.schedule = 0 :: 0 :: later) (hroom : w.outputFull = false)
    (htaking : w.writer.taking = true) (halive : w.writer.alive = true) :
    ∃ w', (react writingTools skipping "/s" [encode sheet]).run w = (.ok (), w') ∧
      w'.disk = w.disk ∧ w'.writer = { w.writer with
        queue := w.writer.queue ++ [writingTools.requestFor w.disk names sheet] } := by
  obtain ⟨w', hrun, hdisk, hwriter⟩ := exists_run_update (w := { w with schedule := 0 :: later })
    hnames rfl hroom htaking halive
  have hpause : (World.pause.run w).2 = { w with schedule := 0 :: later } := by
    rw [World.run_pause, hschedule]
    rfl
  have hfirst : (regenerate writingTools sheet).run w = (.ok (), w') := by
    rw [run_regenerate, hpause, hread, hrun]
  refine ⟨w', ?_, hdisk, hwriter⟩
  rw [react, changedStylesheets_sheet]
  simp only [regenerateAll, World.run_bind, hfirst]
  rfl

theorem heard_sheet (content : Bytes) :
    Heard (encode "/s") (sheetNode content) [encode sheet] := by
  intro path hp _ _
  obtain rfl := List.mem_singleton.1 hp
  obtain ⟨m, hm, -⟩ := (chosen_sheet content).entry
  exact ⟨[encode "a.module.css"], by cbv, by simp [hm]⟩

/-- An edit between the walk's visit and the watcher is lost: the typings stay those of the
stylesheet as it was. -/
theorem edit_missed : ∃ s, Reachable writingTools skipping (Path.resolve "/" "s") (sheetNode [])
      (.begin { disk := sheetDisk [] } [.visit (encode "/s") .dir]) s ∧
    Setting (sheetDisk []) skipping (encode (Path.resolve "/" "s")) [[115]] (sheetNode []) ∧
    Functional writingTools ∧
    Chosen skipping (encode (Path.resolve "/" "s")) (sheetNode []) [encode "a.module.css"] sheet ∧
    Apart (sheetDisk []) skipping (encode (Path.resolve "/" "s")) (sheetNode []) sheet ∧
    s.phase = .watching ∧ s.world.writer.queue = [] ∧ (∀ other, ¬s.awaited other) ∧
    s.world.disk.readText (encode sheet) = .ok ".b\x7b\x7d" ∧
    writingTools.namesOf s.world.disk ".b\x7b\x7d" sheet = .ok ["b"] ∧
    s.world.disk.contents (encode (Module.typingsPath sheet)) ≠
      .ok (encode (writingTools.formattedText s.world.disk (Typings.render ["b"])
        (Module.typingsPath sheet))) := by
  have hroot : Path.resolve "/" "s" = "/s" := by cbv
  have hempty : Text.decode? [] = some "" := by cbv
  have hnames : writingTools.namesOf (sheetDisk []) "" sheet = .ok [] := by cbv
  have hedited : Text.decode? (encode ".b\x7b\x7d") = some ".b\x7b\x7d" :=
    Text.decode?_eq_some_iff.2 rfl
  have hfile : ((sheetDisk []).fileAt? (encode sheet)).isSome := by cbv
  have hset := setting_sheetDisk []
  have hchosen := chosen_sheet []
  rw [hroot]
  have hbegin : Reachable writingTools skipping "/s" (sheetNode [])
      (.begin { disk := sheetDisk [] } [.visit (encode "/s") .dir])
      (.begin { disk := sheetDisk [] } [.visit (encode "/s") .dir]) := .start
  obtain ⟨w, hdisk, hwriter, -, hvisited⟩ := exists_visited hempty hnames hbegin
  have hlater := hvisited.next (.editEarly rfl (present_sheet []) (hdisk ▸ hfile)
    (hdisk ▸ write_sheetDisk [] (encode ".b\x7b\x7d")))
  obtain ⟨w', (hdisk' : w'.disk = sheetDisk _), hwriter', -, hwatched⟩ := exists_watched hlater
  obtain ⟨disk, hwrite, hready, htypings⟩ :=
    (ready_sheetDisk hedited).exists_write (Typings.render [])
  obtain ⟨rfl, hworked⟩ := World.work_of_cons (hwriter'.trans hwriter) (hdisk'.symm ▸ hwrite)
  refine ⟨_, hwatched.next .work, hset, ⟨fun _ _ ↦ rfl, fun _ _ ↦ rfl⟩, hchosen,
    hset.apart_of_no_links (no_links_sheetNode []) hchosen, rfl, by rw [hworked], fun _ ↦ id,
    hready.read, namesOf_sheet _, fun h ↦ ?_⟩
  rw [htypings] at h
  have hsame : Typings.render [] = Typings.render ["b"] := Text.encode_injective (Except.ok.inj h)
  revert hsame
  decide +kernel

/-- Neither an edit that comes before the visit nor one that an event tells of is lost. -/
theorem typings_current_small : ∃ s,
    Reachable writingTools skipping (Path.resolve "/" "s") (sheetNode [])
      (.begin { disk := sheetDisk [] } [.visit (encode "/s") .dir]) s ∧
    s.world.disk.readText (encode sheet) = .ok ".c\x7b\x7d" ∧
    s.world.disk.contents (encode (Module.typingsPath sheet)) = .ok (encode
      (writingTools.formattedText s.world.disk (Typings.render ["c"])
        (Module.typingsPath sheet))) := by
  have hroot : Path.resolve "/" "s" = "/s" := by cbv
  have hearly : Text.decode? (encode ".b\x7b\x7d") = some ".b\x7b\x7d" :=
    Text.decode?_eq_some_iff.2 rfl
  have hlate : Text.decode? (encode ".c\x7b\x7d") = some ".c\x7b\x7d" :=
    Text.decode?_eq_some_iff.2 rfl
  have hnames (d : Disk) : writingTools.namesOf d ".c\x7b\x7d" sheet = .ok ["c"] := by cbv
  generalize hcontent : encode ".c\x7b\x7d" = content at hlate
  have hset := setting_sheetDisk []
  have hchosen := chosen_sheet []
  have hstart : Walk.start (sheetDisk []) (encode "/s") = .ok [.visit (encode "/s") .dir] := by cbv
  have hbegin : Reachable writingTools skipping "/s" (sheetNode [])
      (.begin { disk := sheetDisk [] } [.visit (encode "/s") .dir])
      (.begin { disk := sheetDisk [] } [.visit (encode "/s") .dir]) := .start
  have hedited := hbegin.next (.editEarly rfl (present_sheet []) (by cbv)
    (write_sheetDisk [] (encode ".b\x7b\x7d")))
  obtain ⟨w, hdisk, hwriter, hroom, hvisited⟩ := exists_visited hearly (namesOf_sheet _) hedited
  obtain ⟨w', hdisk', hwriter', hroom', hwatched⟩ := exists_watched hvisited
  -- The writer has yet to begin when the stylesheet is edited again.
  have hwrite' : w'.disk.write (encode sheet) content = .ok (sheetDisk content) := by
    rw [hdisk', hdisk, write_sheetDisk]
  have hfile : (w'.disk.fileAt? (encode sheet)).isSome := by
    rw [hdisk', hdisk]
    cbv
  have hedited' := hwatched.next (.editLate rfl (present_sheet []) hfile hwrite')
  obtain ⟨w'', hreact, (hdisk'' : w''.disk = sheetDisk _), hwriter''⟩ := exists_run_react
    (w := { w' with disk := sheetDisk content, schedule := [0, 0] }) (readText_sheetDisk hlate)
    (hnames _) rfl (hroom'.trans hroom) (by rw [hwriter', hwriter]) (by rw [hwriter', hwriter])
  have htold := hedited'.next (.deliver [0, 0] rfl (heard_sheet []) hreact)
  obtain ⟨disk, hwrite, hready, -⟩ := (ready_sheetDisk hlate).exists_write (Typings.render ["b"])
  obtain ⟨disk', hwrite', hready', -⟩ := hready.exists_write (Typings.render ["c"])
  rw [hwriter', hwriter] at hwriter''
  obtain ⟨rfl, hworked⟩ := World.work_of_cons hwriter'' (hdisk''.symm ▸ hwrite)
  obtain ⟨rfl, hworked'⟩ := World.work_of_cons hworked hwrite'
  have hdone := (htold.next .work).next .work
  rw [← hroot] at hset hchosen hdone hstart
  refine ⟨_, hdone, hready'.read, Reachable.typings_current rfl ⟨fun _ _ ↦ rfl, fun _ _ ↦ rfl⟩ rfl
    rfl hset hstart hdone rfl (by rw [hworked']) ?_ hchosen
    (hset.apart_of_no_links (no_links_sheetNode []) hchosen) ?_ hready'.read (hnames _)⟩
  · rintro other ⟨hawaited | rfl, hother⟩
    · exact hawaited
    · exact hother (List.mem_singleton_self _)
  · exact fun hmissed ↦ hmissed.1.1 rfl

end StyleTypings.Watch
