import StyleTypings.Proofs.Run.Emit
import StyleTypings.Proofs.Walk.Halting
import StyleTypings.Proofs.World.Attempts

namespace StyleTypings.Run

open Disk (Location Node)
open Disk.Node (Alike)
open Text (encode)
open Walk (Halts Located Scene Task looksFrom stillFrom)
open Watch (NoLinks sheet sheetDisk writingTools)
open World (Keeping requests run_bind)

variable {a : Arguments} {p : Plan} {n : Node} {w last walked : World} {f : Failure}

def Plan.requested (p : Plan) (turns : List Located) : List WriteRequest :=
  turns.filterMap (·.request? (p.toolchain .writer) p.exclusion)

/-- What a failing run leaves behind: its walk has halted, and what was passed has been attempted,
and is all that has become of the disk. -/
structure Leaves (p : Plan) (n : Node) (w last : World) (f : Failure) (passed : List Located)
    (stop : Located) : Prop where
  halts : ∃ log, Halts (p.toolchain .writer) p.exclusion w.disk (encode p.stylesDir) n w last
    (looksFrom (p.toolchain .writer) p.exclusion p.stylesDir { w with log }) f passed stop
  idle : last.writer.queue = []
  attempted : last.stock = w.stock.attempts (p.requested passed)
  changed (location : Location) :
    ¬Option.Rel Alike (w.disk.top.at? location) (last.disk.top.at? location) →
      ∃ r ∈ p.requested passed, w.disk.spot? (encode r.target) = some location

theorem Fresh.keeping (h : Fresh w) : Keeping w.stock w where
  split := ⟨[], by rw [h.calls, h.writer]; rfl, rfl⟩
  alive := by rw [h.writer]
  calm := h.calm

theorem keeping_fromDirectory {t : Toolchain} (hsink : t.sink = .writer) (e : Exclusion)
    {stock : World.Stock} (h : Keeping stock w) (htaking : w.writer.taking = true) (root : String) :
    Keeping stock ((Walk.fromDirectory t e root).run w).2 ∧
      ((Walk.fromDirectory t e root).run w).2.writer.taking = true := by
  refine Walk.run_fromDirectory_invariant
    (I := fun w' ↦ Keeping stock w' ∧ w'.writer.taking = true)
    (fun w' h' ↦ ⟨h'.1.pause, (World.taking_pause w').trans h'.2⟩)
    (fun w' w'' hn h' ↦ ⟨h'.1.noted hn, ?_⟩)
    (fun w' r h' ↦ h'.1.submit hsink h'.2 r) ⟨h, htaking⟩ root
  rw [hn.writer_eq]
  exact h'.2

theorem announce_ne_generation (hemit : a.emit = false) (milliseconds : Nat) (done : Done)
    (w : World) (f : Failure) :
    ((announce a milliseconds done).run w).1 ≠ .error (.generation f) := by
  cases hwatch : a.watch with
  | true =>
    intro h
    simp only [announce, hwatch, if_true] at h
    cases h
  | false =>
    intro h
    rw [run_announce hemit hwatch] at h
    split at h <;> cases h

theorem exists_walked (hemit : a.emit = false) {milliseconds : Nat}
    (h : (p.perform a milliseconds).run w = (.error (.generation f), last)) :
    ∃ walked, (Walk.fromDirectory (p.toolchain .writer) p.exclusion p.stylesDir).run w =
      (.error f, walked) ∧ last = (World.finish.run walked).2 := by
  simp only [Plan.perform, hemit, Bool.false_eq_true, if_false, run_bind] at h
  cases hwalk : (Walk.fromDirectory (p.toolchain .writer) p.exclusion p.stylesDir).run w with
  | mk answer walked =>
    rw [hwalk] at h
    cases answer with
    | error f' =>
      obtain ⟨hf, hlast⟩ := Prod.mk.inj h
      cases hf
      exact ⟨walked, rfl, hlast.symm⟩
    | ok summary => exact absurd (congrArg Prod.fst h) (announce_ne_generation hemit _ _ _ f)

theorem run_perform_of_error (hemit : a.emit = false) {milliseconds : Nat}
    (h : (Walk.fromDirectory (p.toolchain .writer) p.exclusion p.stylesDir).run w =
      (.error f, walked)) :
    (p.perform a milliseconds).run w = (.error (.generation f), (World.finish.run walked).2) := by
  simp only [Plan.perform, hemit, Bool.false_eq_true, if_false, run_bind, h]
  rfl

theorem leaves_of_walked (hfresh : Fresh w) (hwf : w.disk.top.WellFormed)
    (hnode : w.disk.node (encode p.stylesDir) false = .ok n) (hdir : n.kind = .dir)
    (hn : NoLinks n) {log : List (Thread × Log.Event)}
    (hwalk : (Walk.fromDirectory (p.toolchain .writer) p.exclusion p.stylesDir).run
      { w with log } = (.error f, walked)) :
    ∃ passed stop, Leaves p n w (World.finish.run walked).2 f passed stop := by
  have hqueue : w.writer.queue = [] := by rw [hfresh.writer]
  obtain ⟨passed, stop, hhalts⟩ :=
    Walk.halts_fromDirectory (w := { w with log }) hwf hnode hdir hn hqueue hwalk
  have hbegun : Keeping w.stock { w with log } :=
    hfresh.keeping.noted ⟨⟨log, w.calls, rfl⟩, rfl⟩
  obtain ⟨hkeeping, htaking⟩ := keeping_fromDirectory (t := p.toolchain .writer) rfl p.exclusion
    hbegun (by rw [hfresh.writer]) p.stylesDir
  rw [hwalk] at hkeeping htaking
  obtain ⟨hidle, hattempted⟩ := hkeeping.finish htaking
  have hrequests : requests walked.calls = p.requested passed := by
    have hcalls : ({ w with log } : World).calls = [] := hfresh.calls
    rw [hhalts.requests_eq, hcalls]
    rfl
  rw [hrequests] at hattempted
  have hchanges := w.stock.changes_attempts (p.requested passed)
  rw [hattempted] at hchanges
  exact ⟨passed, stop, ⟨log, hhalts.congr rfl (World.calls_finish walked)⟩, hidle,
    hattempted.symm, hchanges.changed⟩

/-- Which item a walk fails with, how far it has come, and what a run that fails with it leaves
behind. -/
theorem failed_as_far :
    (∀ (t : Toolchain) (e : Exclusion) (root : String) (n : Node) (w last : World) (f : Failure),
      w.disk.top.WellFormed → w.disk.node (encode root) false = .ok n → n.kind = .dir →
      NoLinks n → w.writer.queue = [] →
      (Walk.fromDirectory t e root).run w = (.error f, last) →
      ∃ passed stop,
        Halts t e w.disk (encode root) n w last (looksFrom t e root w) f passed stop) ∧
    ∀ (a : Arguments) (milliseconds : Nat) (p : Plan) (n : Node) (w last : World) (f : Failure),
      a.emit = false → Fresh w → w.disk.top.WellFormed →
      plan a w.disk w.searchPath = .ok p →
      w.disk.node (encode p.stylesDir) false = .ok n → n.kind = .dir → NoLinks n →
      (run a milliseconds).run w = (.error (.generation f), last) →
      ∃ passed stop, Leaves p n w last f passed stop := by
  refine ⟨fun t e root n w last f hwf hnode hdir hn hqueue h ↦
    Walk.halts_fromDirectory hwf hnode hdir hn hqueue h,
    fun a milliseconds p n w last f hemit hfresh hwf hplan hnode hdir hn h ↦ ?_⟩
  obtain ⟨log, hrun⟩ := run_eq w a milliseconds
  rw [hplan] at hrun
  obtain ⟨walked, hwalk, rfl⟩ := exists_walked hemit (hrun.symm.trans h)
  exact leaves_of_walked hfresh hwf hnode hdir hn hwalk

def brokenNode : Node :=
  .dir [([118], .dir [(encode "x.module.css", .file [] false)]),
    (encode "a.module.css", .file (encode ".b\x7b\x7d") false)]

def brokenDisk : Disk where
  top := .dir [([115], brokenNode)]
  barred := [([[115], [118], encode "x.module.css"], .denied)]

def brokenFailure : Failure := .read "/s/v/x.module.css" .denied

theorem wellFormed_brokenDisk : brokenDisk.top.WellFormed := by
  have hwrite : (sheetDisk (encode ".b\x7b\x7d")).write (encode "/s/v/x.module.css") [] =
      .ok { brokenDisk with barred := [] } := by cbv
  have hwf := Disk.wellFormed_of_write hwrite (Watch.setting_sheetDisk _).wellFormed
  exact hwf

theorem noLinks_brokenNode : NoLinks brokenNode :=
  Watch.noLinks_dir (by simp [Watch.noLinks_dir, Watch.noLinks_file])

theorem bare_brokenDisk : Bare brokenDisk := ⟨by cbv, by cbv, by cbv, by cbv⟩

theorem stillFrom_broken :
    stillFrom writingTools none brokenDisk "/s" =
      (.error brokenFailure, [⟨"/s/a.module.css.d.ts", Typings.render ["b"]⟩]) := by
  have hbroken : Walk.stylesheet? (encode "/s/v/x.module.css") = some "/s/v/x.module.css" :=
    Walk.stylesheet?_eq_some_iff.2 ⟨Text.decode?_eq_some_iff.2 rfl, by decide +kernel⟩
  have hread : brokenDisk.readText (encode sheet) = .ok ".b\x7b\x7d" := by
    have hbytes : brokenDisk.read (encode sheet) = .ok (encode ".b\x7b\x7d") := by cbv
    simp only [Disk.readText, hbytes, Text.decode?_eq_some_iff.2 rfl]
  have hunread : brokenDisk.readText (encode "/s/v/x.module.css") = .error .denied := by cbv
  have hstart : Walk.start brokenDisk (encode "/s") = .ok [.visit (encode "/s") .dir] := by cbv
  have hvisit : (Task.visit (encode "/s") .dir).gain writingTools none brokenDisk =
      .ok { tasks := [.enter (encode "/s")] } := by cbv
  have henter : (Task.enter (encode "/s")).gain writingTools none brokenDisk =
      .ok { tasks := [.visit (encode sheet) .file, .visit (encode "/s/v") .dir] } := by cbv
  have hfile := gain_sheet hread
  have hother : (Task.visit (encode "/s/v") .dir).gain writingTools none brokenDisk =
      .ok { tasks := [.enter (encode "/s/v")] } := by cbv
  have hlist : (Task.enter (encode "/s/v")).gain writingTools none brokenDisk =
      .ok { tasks := [.visit (encode "/s/v/x.module.css") .file] } := by cbv
  have hfails : (Task.visit (encode "/s/v/x.module.css") .file).gain writingTools none brokenDisk =
      .error brokenFailure := by
    simp only [Task.gain, hbroken, Walk.sheetGain, hunread]
    rfl
  have hbound : Walk.taskBound brokenDisk = 18 + 6 := by cbv
  rw [stillFrom, hstart, hbound]
  simp only [Walk.still, hvisit, henter, hfile, hother, hlist, hfails, List.cons_append,
    List.nil_append]
  rfl

def brokenWorld : World := { disk := brokenDisk, schedule := [0, 0, 0] }

/-- The walk there fails with the second stylesheet, and the typings of the first one are written
when the run ends. -/
theorem failed_as_far_broken : ∃ walked last passed stop passed' stop',
    (Walk.fromDirectory writingTools none "/s").run brokenWorld = (.error brokenFailure, walked) ∧
    Halts writingTools none brokenDisk (encode "/s") brokenNode brokenWorld walked
      (looksFrom writingTools none "/s" brokenWorld) brokenFailure passed stop ∧
    (run alone 0).run brokenWorld = (.error (.generation brokenFailure), last) ∧
    Leaves alonePlan brokenNode brokenWorld last brokenFailure passed' stop' ∧
    last.stock = brokenWorld.stock.attempts [⟨"/s/a.module.css.d.ts", Typings.render ["b"]⟩] := by
  have hfresh : Fresh brokenWorld := ⟨rfl, rfl, rfl⟩
  have hnode : brokenDisk.node (encode "/s") false = .ok brokenNode := by cbv
  have hlinks : ∀ n, brokenDisk.node (encode "/s") false = .ok n → NoLinks n := by
    intro n hn
    rw [hnode] at hn
    exact Except.ok.inj hn ▸ noLinks_brokenNode
  have hwalk (log : List (Thread × Log.Event)) : ∃ walked,
      (Walk.fromDirectory writingTools none "/s").run { brokenWorld with log } =
        (.error brokenFailure, walked) ∧
      requests walked.calls = [⟨"/s/a.module.css.d.ts", Typings.render ["b"]⟩] := by
    have hshows : Scene.Shows (Scene.begin brokenDisk "/s") { brokenWorld with log } :=
      ⟨rfl, rfl, rfl, rfl, rfl, rfl⟩
    obtain ⟨walked, hwalk, hrequests⟩ := Walk.run_written (t := writingTools) (e := none)
      wellFormed_brokenDisk ⟨fun _ ↦ rfl, fun _ ↦ rfl⟩ rfl hlinks hshows
    rw [stillFrom_broken] at hwalk hrequests
    exact ⟨walked, hwalk, hrequests⟩
  obtain ⟨walked, hfirst, -⟩ := hwalk []
  obtain ⟨log, hrun⟩ := run_eq brokenWorld alone 0
  have hplan : plan alone brokenWorld.disk brokenWorld.searchPath = .ok alonePlan :=
    bare_brokenDisk.plan_alone
  obtain ⟨walked', hsecond, hrequests⟩ := hwalk log
  rw [hplan] at hrun
  have hfails := hrun.trans (run_perform_of_error rfl hsecond)
  obtain ⟨passed, stop, hhalts⟩ := failed_as_far.1 writingTools none "/s" brokenNode brokenWorld
    walked brokenFailure wellFormed_brokenDisk hnode rfl noLinks_brokenNode rfl hfirst
  obtain ⟨passed', stop', hleaves⟩ := failed_as_far.2 alone 0 alonePlan brokenNode brokenWorld _
    brokenFailure rfl hfresh wellFormed_brokenDisk hplan hnode rfl noLinks_brokenNode hfails
  refine ⟨walked, _, passed, stop, passed', stop', hfirst, hhalts, hfails, hleaves, ?_⟩
  obtain ⟨_, hhalts'⟩ := hleaves.halts
  have hrequested : alonePlan.requested passed' = requests walked'.calls := by
    rw [← World.calls_finish walked', hhalts'.requests_eq]
    rfl
  rw [← hrequests, ← hrequested]
  exact hleaves.attempted

end StyleTypings.Run
