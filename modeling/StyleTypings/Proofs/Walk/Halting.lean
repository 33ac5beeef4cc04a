import StyleTypings.Proofs.Path.Ending
import StyleTypings.Proofs.Walk.Stopped

namespace StyleTypings.Walk

open Disk (Location Name Node)
open Text (Bytes encode)
open Watch (NoLinks)
open World (Tame requests)

variable (t : Toolchain) (e : Exclusion)

/-- What an item fails with: a directory that cannot be listed, or a stylesheet that cannot be
read, compiled or parsed. The tools work on another disk than the one that the walk begins on. -/
inductive Fails (t : Toolchain) (d disk : Disk) : Task → Failure → Prop
  | gone {path : Bytes} (h : d.list path = .error .noEntry) :
      Fails t d disk (.enter path) (.missingFile (Text.lossy path))
  | unlisted {path : Bytes} {fault : Disk.Fault} (h : d.list path = .error fault)
      (hthere : fault ≠ .noEntry) : Fails t d disk (.enter path) (.walk (Text.lossy path) fault)
  | vanished {text : String} {kind : Disk.Kind} (h : d.readText (encode text) = .error .noEntry) :
      Fails t d disk (.visit (encode text) kind) (.missingFile text)
  | unread {text : String} {kind : Disk.Kind} {fault : Disk.Fault}
      (h : d.readText (encode text) = .error fault) (hthere : fault ≠ .noEntry) :
      Fails t d disk (.visit (encode text) kind) (.read text fault)
  | uncompiled {text content : String} {kind : Disk.Kind} {dialect : Dialect} {form : Form}
      {fault : Tool.Fault} (h : d.readText (encode text) = .ok content)
      (hdialect : Dialect.ofPath? text = some dialect) (hform : dialect.form? = some form)
      (hcompile : (t.compiler.compile disk content form text).2 = .error fault) :
      Fails t d disk (.visit (encode text) kind) (.compile text fault)
  | unparsed {text content css : String} {kind : Disk.Kind} {failure : Css.Failure}
      (h : d.readText (encode text) = .ok content) (hcss : t.Yields disk content text css)
      (hparse : Css.parse css = .error failure) :
      Fails t d disk (.visit (encode text) kind) (.parse text failure)

def Turn.request? (turn : Turn) : Option WriteRequest :=
  match turn.gain t e with
  | .error _ => none
  | .ok g => g.request?

/-- A walk below a root has looked at some items in order, the last of which it has failed with. -/
structure Halts (d : Disk) (root : Bytes) (n : Node) (w last : World) (looked : List Turn)
    (f : Failure) (passed : List Located) (stop : Located) : Prop where
  looked_eq : looked = (passed ++ [stop]).map (·.toTurn)
  sorted : (passed ++ [stop]).Pairwise (·.location < ·.location)
  item (turn : Located) : turn ∈ passed ++ [stop] → Item e root n turn.location turn.task
  complete (l : Location) (task : Task) : Item e root n l task → l < stop.location →
    ∃ turn ∈ passed, turn.location = l ∧ turn.task = task
  passed_ok (turn : Located) (f : Failure) : turn ∈ passed → ¬Fails t d turn.disk turn.task f
  failed : Fails t d stop.disk stop.task f
  calls_eq : last.calls = w.calls ++ (passed ++ [stop]).flatMap (·.calls t)
  requests_eq : requests last.calls = requests w.calls ++ passed.filterMap (·.request? t e)
  typings (turn : Located) (text : String) : turn ∈ passed →
    Chosen e root n turn.location text → ∃ content names,
      d.readText (encode text) = .ok content ∧ t.namesOf turn.disk content text = .ok names ∧
        turn.request? t e = some (t.requestFor turn.disk names text)
  /-- What an item came to is what it would have come to in the beginning. -/
  steady (turn : Located) (f : Failure) : turn ∈ passed ++ [stop] → t.Steady d →
    (Fails t d d turn.task f ↔ Fails t d turn.disk turn.task f)

variable {t e} {d : Disk} {root : Bytes} {top : Location} {n : Node} {turn : Located}

theorem Halts.congr {w w' last last' : World} {looked : List Turn} {f : Failure}
    {passed : List Located} {stop : Located}
    (h : Halts t e d root n w last looked f passed stop) (hw : w'.calls = w.calls)
    (hlast : last'.calls = last.calls) : Halts t e d root n w' last' looked f passed stop :=
  { h with
    calls_eq := by rw [hw, hlast, h.calls_eq]
    requests_eq := by rw [hw, hlast, h.requests_eq] }

theorem Turn.requests_calls (turn : Turn) :
    requests (turn.calls t) = (turn.request? t e).toList := by
  unfold Turn.calls Turn.request? Turn.gain
  rw [Walk.requests_calls (e := e)]
  cases turn.task.gain t e turn.disk <;> rfl

theorem requests_flatMap_calls (turns : List Located) :
    requests (turns.flatMap (·.calls t)) = turns.filterMap (·.request? t e) := by
  induction turns with
  | nil => rfl
  | cons turn turns ih =>
    rw [List.flatMap_cons, World.requests_append, Turn.requests_calls (e := e), ih,
      List.filterMap_cons]
    cases turn.request? t e <;> rfl

theorem failure_eq_iff {path : Bytes} {fault : Disk.Fault} {f : Failure} :
    failure path fault = f ↔ fault = .noEntry ∧ f = .missingFile (Text.lossy path) ∨
      fault ≠ .noEntry ∧ f = .walk (Text.lossy path) fault := by
  cases fault <;> simp [failure, eq_comm]

theorem readFailure_eq_iff {path : String} {fault : Disk.Fault} {f : Failure} :
    readFailure path fault = f ↔ fault = .noEntry ∧ f = .missingFile path ∨
      fault ≠ .noEntry ∧ f = .read path fault := by
  cases fault <;> simp [readFailure, eq_comm]

theorem gain_enter_eq_error_iff {d disk : Disk} {path : Bytes} {f : Failure}
    (h : ∀ fault, disk.list path = .error fault ↔ d.list path = .error fault) :
    (Task.enter path).gain t e disk = .error f ↔ Fails t d disk (.enter path) f := by
  have hgain : (Task.enter path).gain t e disk = .error f ↔
      ∃ fault, disk.list path = .error fault ∧ failure path fault = f := by
    simp only [Task.gain]
    cases disk.list path <;> simp
  rw [hgain]
  constructor
  · rintro ⟨fault, hlist, hf⟩
    rcases failure_eq_iff.1 hf with ⟨rfl, rfl⟩ | ⟨hthere, rfl⟩
    · exact .gone ((h _).1 hlist)
    · exact .unlisted ((h _).1 hlist) hthere
  · rintro (hlist | ⟨hlist, hthere⟩)
    · exact ⟨_, (h _).2 hlist, rfl⟩
    · exact ⟨_, (h _).2 hlist, failure_eq_iff.2 (.inr ⟨hthere, rfl⟩)⟩

theorem sheetGain_eq_error_iff {d disk : Disk} {text : String} {kind : Disk.Kind} {f : Failure}
    (hm : Module.isModule text = true)
    (hread : disk.readText (encode text) = d.readText (encode text)) :
    sheetGain t disk text = .error f ↔ Fails t d disk (.visit (encode text) kind) f := by
  obtain ⟨dialect, hdialect⟩ := Module.exists_ofPath? hm
  unfold sheetGain
  rw [hread]
  constructor
  · intro h
    split at h
    next fault hfault =>
      rcases readFailure_eq_iff.1 (Except.error.inj h) with ⟨rfl, rfl⟩ | ⟨hthere, rfl⟩
      · exact .vanished hfault
      · exact .unread hfault hthere
    next content hcontent =>
      split at h
      next f' hnames =>
        obtain rfl := Except.error.inj h
        rcases (Toolchain.namesOf_eq_error_iff hdialect).1 hnames with
          ⟨form, fault, hform, hcompile, rfl⟩ | ⟨css, failure, hcss, hparse, rfl⟩
        · exact .uncompiled hcontent hdialect hform hcompile
        · exact .unparsed hcontent hcss hparse
      · cases h
  · intro h
    generalize hpath : encode text = path at h
    cases h with
    | vanished h =>
      obtain rfl := Text.encode_injective hpath
      rw [h]
      rfl
    | unread h hthere =>
      obtain rfl := Text.encode_injective hpath
      rw [h]
      exact congrArg Except.error (readFailure_eq_iff.2 (.inr ⟨hthere, rfl⟩))
    | uncompiled h hdialect hform hcompile =>
      obtain rfl := Text.encode_injective hpath
      have hnames := (Toolchain.namesOf_eq_error_iff hdialect).2
        (.inl ⟨_, _, hform, hcompile, rfl⟩)
      simp only [h, hnames]
    | unparsed h hcss hparse =>
      obtain rfl := Text.encode_injective hpath
      have hnames := (Toolchain.namesOf_eq_error_iff hdialect).2
        (.inr ⟨_, _, hcss, hparse, rfl⟩)
      simp only [h, hnames]

theorem fails_congr {d disk disk' : Disk} {task : Task} {f : Failure}
    (h : t.compiler.compile disk' = t.compiler.compile disk) :
    Fails t d disk task f ↔ Fails t d disk' task f := by
  have hforward {disk disk' : Disk} (h : t.compiler.compile disk' = t.compiler.compile disk)
      (hf : Fails t d disk task f) : Fails t d disk' task f := by
    cases hf with
    | gone h => exact .gone h
    | unlisted h hthere => exact .unlisted h hthere
    | vanished h => exact .vanished h
    | unread h hthere => exact .unread h hthere
    | uncompiled hread hdialect hform hcompile =>
      exact .uncompiled hread hdialect hform (h ▸ hcompile)
    | unparsed hread hcss hparse => exact .unparsed hread (hcss.congr h) hparse
  exact ⟨hforward h, hforward h.symm⟩

section Ground

variable (g : Ground d root top n) (hn : NoLinks n)
include g hn

theorem Sees.readText_eq (h : Sees e d root top n turn) {text : String}
    (hc : Chosen e root n turn.location text) :
    turn.disk.readText (encode text) = d.readText (encode text) := by
  obtain ⟨m, hm, hk⟩ := hc.entry
  exact h.intact.readText_eq g hn hm hk h.above hc.stylesheet?_eq

theorem Sees.list_eq_error_iff (h : Sees e d root top n turn) {es : List (Name × Node)}
    (hd : n.at? turn.location = some (.dir es)) {fault : Disk.Fault} :
    turn.disk.list (pathBelow root turn.location) = .error fault ↔
      d.list (pathBelow root turn.location) = .error fault := by
  rcases h.intact.keeps.lookup_cases g hn hd h.above with ⟨fault, hl, hl'⟩ | ⟨m, hl, hl', hat⟩
  · rw [Disk.list_of_error hl, Disk.list_of_error hl']
  · have hgrew := h.intact.keeps.grows.top (top ++ turn.location)
    rw [g.at?_append, hd] at hgrew
    obtain ⟨es', hes'⟩ := hgrew.dir_iff.1 ⟨es, rfl⟩
    obtain rfl : m = .dir es' := Option.some.inj (hat.symm.trans hes')
    rw [Disk.list_of_dir hl, Disk.list_of_dir hl', h.intact.keeps.grows.barred_eq]
    cases d.barred.lookup (top ++ turn.location) <;> simp

theorem Sees.gain_eq_error_iff (h : Sees e d root top n turn) {f : Failure} :
    turn.toTurn.gain t e = .error f ↔ Fails t d turn.disk turn.task f := by
  obtain ⟨⟨task, disk⟩, l⟩ := turn
  have hitem : Item e root n l task := h.item
  unfold Turn.gain
  cases hitem with
  | @enter es hd hkept he =>
    exact gain_enter_eq_error_iff fun fault ↦ h.list_eq_error_iff g hn hd
  | @visit m text hm hc =>
    have hpath : encode text = pathBelow root l := Text.decode?_eq_some_iff.1 hc.text_eq
    rw [gain_of_stylesheet (hc.not_dir hm) hc.stylesheet?_eq, ← hpath]
    exact sheetGain_eq_error_iff hc.isModule (h.readText_eq g hn hc)

theorem Sees.typings (h : Sees e d root top n turn) {gain : Gain}
    (hgain : turn.toTurn.gain t e = .ok gain) {text : String}
    (hc : Chosen e root n turn.location text) : ∃ content names,
      d.readText (encode text) = .ok content ∧ t.namesOf turn.disk content text = .ok names ∧
        turn.request? t e = some (t.requestFor turn.disk names text) := by
  obtain ⟨⟨task, disk⟩, l⟩ := turn
  obtain ⟨m, hm, hk⟩ := hc.entry
  obtain rfl : task = .visit (pathBelow root l) m.kind := h.item.unique (.visit hm hc)
  have hread := h.readText_eq g hn hc
  have hsame := gain_of_stylesheet (t := t) (e := e) hk hc.stylesheet?_eq disk
  obtain ⟨content, names, hcontent, hnames, rfl⟩ :=
    sheetGain_eq_ok_iff.1 (hsame.symm.trans hgain)
  refine ⟨content, names, hread.symm.trans hcontent, hnames, ?_⟩
  simp only [Turn.request?, hgain]

/-- A walk that fails below a directory without links has passed all that comes in front of the
item that it fails with. -/
theorem exists_halts (hdir : n.kind = .dir) {fuel : Nat} {w last : World} {f : Failure}
    (htame : Tame (Intact d root top n) (Requested d root top) w)
    (h : (run t e fuel ⟨[.visit root n.kind], {}⟩).run w = (.error f, last)) :
    ∃ passed stop,
      Halts t e d root n w last (looks t e fuel ⟨[.visit root n.kind], {}⟩ w) f passed stop := by
  have hgoes := goes_entry (t := t) (e := e) g hdir hn (Node.at?_nil n) (kept_nil e root) (by simp)
  rcases hgoes [] {} fuel w f last htame h with
    ⟨passed, fuel', s, w', -, -, hadvances⟩ |
    ⟨passed, stop, fuel', later, s, w', hpasses, -, hsees, hdisk, hgain, hadvances⟩
  -- A walk that has gone over everything has no task left to fail with.
  · obtain ⟨-, _, _, _, -, hp⟩ := eq_of_fails (hadvances.run_eq.symm.trans h)
    cases hp
  have hall : ∀ turn ∈ passed ++ [stop], Sees e d root top n turn := by
    intro turn hm
    rcases List.mem_append.1 hm with hm | hm
    · exact hpasses.sees turn hm
    · exact List.mem_singleton.1 hm ▸ hsees
  have hstop : stop.task.gain t e (stop.task.entered w').disk = .error f := hdisk ▸ hgain
  obtain ⟨last', hrun, hlook, hcall⟩ := stop_of_error hstop
  obtain rfl : last' = last :=
    (Prod.mk.inj (hrun.symm.trans (hadvances.run_eq.symm.trans h))).2
  have hcalls : last'.calls = w.calls ++ (passed ++ [stop]).flatMap (·.calls t) := by
    rw [hcall, hadvances.calls_eq, List.flatMap_append, List.flatMap_singleton, ← hdisk,
      List.append_assoc, List.flatMap_map]
    rfl
  have hlooks : looks t e fuel ⟨[.visit root n.kind], {}⟩ w =
      (passed ++ [stop]).map (·.toTurn) := by
    refine hadvances.looks_eq.trans ?_
    rw [hlook, ← hdisk, List.map_append]
    rfl
  refine ⟨passed, stop, {
    looked_eq := hlooks
    sorted := ?_
    item := fun turn hm ↦ (hall turn hm).item
    complete := fun l task hitem hlt ↦ hpasses.complete l task ⟨List.nil_prefix, hlt⟩ hitem
    passed_ok := fun turn f hm hf ↦ ?_
    failed := (hsees.gain_eq_error_iff g hn).1 hgain
    calls_eq := hcalls
    requests_eq := ?_
    typings := fun turn text hm hc ↦ ?_
    steady := fun turn f hm hsteady ↦ fails_congr (hsteady.compile (hall turn hm).intact.retyped) }⟩
  · refine List.pairwise_append.2 ⟨hpasses.sorted, List.pairwise_singleton .., ?_⟩
    intro turn hm other hother
    exact List.mem_singleton.1 hother ▸ (hpasses.within turn hm).2
  · obtain ⟨gain, hgain'⟩ := hpasses.gain turn hm
    have hfails := ((hpasses.sees turn hm).gain_eq_error_iff g hn).2 hf
    rw [hgain'] at hfails
    cases hfails
  · have hnone : stop.request? t e = none := by simp only [Turn.request?, hgain]
    rw [hcalls, World.requests_append, requests_flatMap_calls (e := e), List.filterMap_append]
    simp [hnone]
  · obtain ⟨gain, hgain'⟩ := hpasses.gain turn hm
    exact (hpasses.sees turn hm).typings g hn hgain' hc

end Ground

theorem halts_fromDirectory {root : String} {w last : World} {f : Failure}
    (hwf : w.disk.top.WellFormed) (hnode : w.disk.node (encode root) false = .ok n)
    (hdir : n.kind = .dir) (hn : NoLinks n) (hqueue : w.writer.queue = [])
    (h : (fromDirectory t e root).run w = (.error f, last)) :
    ∃ passed stop,
      Halts t e w.disk (encode root) n w last (looksFrom t e root w) f passed stop := by
  obtain ⟨top, g, -⟩ := exists_ground hwf hnode (by simp [hdir])
  have hstart := start_of_node hnode (by simp [hdir])
  have htame : Tame (Intact w.disk (encode root) top n) (Requested w.disk (encode root) top) w :=
    ⟨intact_refl g, by simp [hqueue]⟩
  rw [run_fromDirectory hstart] at h
  unfold looksFrom
  rw [hstart]
  exact exists_halts g hn hdir htame h

end StyleTypings.Walk
