import StyleTypings.Proofs.Watch.Loop
import StyleTypings.Proofs.World.Endurance
import StyleTypings.Proofs.World.Output

namespace StyleTypings.Watch

open Relation (ReflTransGen)
open Text (encode)
open World (Outlasts Serving Spares Tame promised requests)

variable {t : Toolchain} {e : Exclusion} {root : String} {w : World} {turn : Turn}

def Spots (d d' : Disk) : Prop := ∀ path, d'.spot? path = d.spot? path

theorem spots_outlasts (d : Disk) (Q : WriteRequest → Prop) : Outlasts (Spots d) Q := by
  intro d' r d'' hd _ hwrite path
  obtain ⟨_, -, hstores⟩ := Disk.exists_stores hwrite
  rw [hstores.spot?_eq, hd]

/-- The writer changes the typings of a separate stylesheet for its own requests alone. -/
theorem Separate.spares {root : Text.Bytes} {text : String} (hs : Separate e root w text) :
    Spares (Spots w.disk) (Asked e root w) text (Module.typingsPath text) where
  outlasts := spots_outlasts w.disk _
  writable d _ hd _ _ := by
    rw [hd]
    exact hs.writable
  off_path d r hd hr hsome := by
    rw [hd] at hsome
    rw [hd, hd]
    exact hs.file r hr hsome
  off_target d r hd hr hspot := by
    rw [hd, hd] at hspot
    exact hs.typings r hr hspot

theorem Turn.request?_eq_some {d : Disk} {r : WriteRequest} (h : turn.request? t d = some r) :
    r.target = Module.typingsPath turn.path ∧ ∃ content names, turn.found = .ok content ∧
      t.namesOf d content turn.path = .ok names ∧ r = t.requestFor d names turn.path := by
  unfold request? at h
  cases hfound : turn.found with
  | error fault => simp [hfound, Except.toOption] at h
  | ok content =>
    cases hnames : t.namesOf d content turn.path with
    | error f => simp [hfound, hnames, Except.toOption] at h
    | ok names =>
      obtain rfl : t.requestFor d names turn.path = r := by
        simpa [hfound, hnames, Except.toOption] using h
      exact ⟨rfl, content, names, rfl, hnames, rfl⟩

theorem Functional.request?_eq (hf : Functional t) (d d' : Disk) :
    Turn.request? t d = Turn.request? t d' := by
  funext turn
  unfold Turn.request?
  rw [hf.namesOf_eq d d', hf.requestFor_eq d d']

section Act

variable {P : Disk → Prop} {Q : WriteRequest → Prop} (hsink : t.sink = .writer)
  (h : Tame P Q w) (hserving : Serving w) (hm : Module.isModule turn.path = true)
  (hq : ∀ r, turn.request? t w.disk = some r → Q r)
include hsink h hserving hm hq

theorem Turn.act_tame (ho : Outlasts P Q) :
    Tame P Q ((turn.act t).run w).2 ∧ Serving ((turn.act t).run w).2 := by
  rcases turn.act_cases hm w with ⟨-, hsame⟩ | ⟨r, noted, hr, hnoted, hsame⟩
  · exact ⟨h.congr hsame.disk_eq hsame.writer_eq, hserving.congr hsame.writer_eq⟩
  · refine ⟨((hnoted.tame h).submits ho fun _ ↦ hq r hr).congr hsame.disk_eq hsame.writer_eq,
      Serving.congr ?_ hsame.writer_eq⟩
    rw [World.run_submit_of_writer noted hsink]
    have hcalled : Serving { noted with calls := noted.calls ++ [.submit r] } :=
      hserving.congr hnoted.writer_eq
    exact hcalled.submit r

/-- Acting on a file promises its typings to hold what is asked for, and promises nothing else. -/
theorem Turn.act_upkeep {path target : String} (hs : Spares P Q path target)
    (ha : ((turn.act t).run w).2.writer.alive = true) :
    ((turn.act t).run w).2.disk.seen? (encode path) = w.disk.seen? (encode path) ∧
      promised ((turn.act t).run w).2 target = if Module.typingsPath turn.path = target then
        ((turn.request? t w.disk).map (·.contents)).or (promised w target)
      else promised w target := by
  have hpromised : ∀ {a b : World}, Unmoved a b → promised b target = promised a target :=
    fun h ↦ by rw [promised, promised, h.disk_eq, h.writer_eq]
  rcases turn.act_cases hm w with ⟨hnone, hsame⟩ | ⟨r, noted, hr, hnoted, hsame⟩
  · refine ⟨by rw [hsame.disk_eq], ?_⟩
    simp [hnone, hpromised hsame]
  · rw [World.run_submit_of_writer noted hsink] at hsame
    rw [hsame.writer_eq] at ha
    obtain ⟨htext, hgiven⟩ := Tame.promised_submit hs
      (w := { noted with calls := noted.calls ++ [.submit r] })
      (h.congr hnoted.disk_eq hnoted.writer_eq) ((hserving.congr hnoted.writer_eq).taking)
      (hq r hr) ha
    have hbefore : promised { noted with calls := noted.calls ++ [.submit r] } target =
        promised w target := by
      simp only [promised, hnoted.disk_eq, hnoted.writer_eq]
    refine ⟨?_, ?_⟩
    · rw [hsame.disk_eq, htext]
      exact congrArg (Disk.seen? · _) hnoted.disk_eq
    · rw [hpromised hsame, hgiven, hr, (Turn.request?_eq_some hr).1, hbefore]
      simp

end Act

theorem Turn.alive_of_act (hsink : t.sink = .writer) (hm : Module.isModule turn.path = true)
    (ha : ((turn.act t).run w).2.writer.alive = true) : w.writer.alive = true := by
  rcases turn.act_cases hm w with ⟨-, hsame⟩ | ⟨r, noted, -, hnoted, hsame⟩
  · rwa [hsame.writer_eq] at ha
  · rw [hsame.writer_eq, World.run_submit_of_writer noted hsink] at ha
    have halive := World.alive_of_submit ha
    rwa [hnoted.writer_eq] at halive

namespace Loop

structure Sound (t : Toolchain) (e : Exclusion) (root : String) (w : World) (s : Loop) : Prop where
  tame : Tame (Spots w.disk) (Asked e (encode root) w) s.world
  serving : Serving s.world
  told (event : Event) : event ∈ s.taken ++ s.inbox → Told (encode root) event.paths
  order_eq : s.turns.map (·.path) ++ s.held.toList.map (·.path) ++ s.todo =
    s.taken.flatMap (·.stylesheets root e)
  spot {turn : Turn} {content : String} : s.held = some turn → turn.found = .ok content →
    (w.disk.spot? (encode turn.path)).isSome
  requests_eq : requests s.world.calls =
    requests w.calls ++ s.turns.filterMap (·.request? t w.disk)
  /-- The program ends only where nothing can be printed. -/
  full {fault : Disk.Fault} : s.outcome = .error fault → s.world.outputFull = true

variable {s s' : Loop}

theorem sound_begin (hw : Serving w) : Sound t e root w (.begin w) where
  tame := ⟨fun _ ↦ rfl, fun _ ↦ .inl⟩
  serving := hw
  told := by simp [begin]
  order_eq := by simp [begin]
  spot := by simp [begin]
  requests_eq := by simp [begin]
  full := by simp [begin]

theorem Sound.sheet (h : Sound t e root w s) (hroot : Path.Resolved root) {text : String}
    (hm : text ∈ s.held.toList.map (·.path) ++ s.todo) : Sheet e (encode root) text := by
  have hmem : text ∈ s.taken.flatMap (·.stylesheets root e) := by
    rw [← h.order_eq, List.append_assoc]
    exact List.mem_append_right _ hm
  obtain ⟨event, hevent, htext⟩ := List.mem_flatMap.1 hmem
  exact ((mem_stylesheets_iff hroot (h.told event (List.mem_append_left _ hevent))).1 htext).2.1

theorem Sound.sheet_of_held (h : Sound t e root w s) (hroot : Path.Resolved root)
    (hheld : s.held = some turn) : Sheet e (encode root) turn.path :=
  h.sheet hroot (by simp [hheld])

theorem Sound.asked (h : Sound t e root w s) (hroot : Path.Resolved root)
    (hheld : s.held = some turn) {d : Disk} {r : WriteRequest} (hr : turn.request? t d = some r) :
    Asked e (encode root) w r := by
  obtain ⟨htarget, content, -, hfound, -⟩ := Turn.request?_eq_some hr
  exact .inr ⟨turn.path, ⟨h.sheet_of_held hroot hheld, h.spot hheld hfound⟩, htarget⟩

theorem Sound.alive_of_works (h : Sound t e root w s) (hsink : t.sink = .writer)
    (hroot : Path.Resolved root) (hs : Works t e root s s')
    (ha : s'.world.writer.alive = true) : s.world.writer.alive = true := by
  cases hs with
  | take => exact ha
  | read schedule _ _ _ hpause =>
    subst hpause
    exact World.alive_of_pause (w := { s.world with schedule }) ha
  | act schedule _ hheld hact =>
    obtain rfl := congrArg Prod.snd hact
    exact Turn.alive_of_act (w := { s.world with schedule }) hsink
      (h.sheet_of_held hroot hheld).isModule ha
  | work => exact World.alive_of_work ha

theorem Sound.alive_of_step (h : Sound t e root w s) (hsink : t.sink = .writer)
    (hroot : Path.Resolved root) (hs : Step t e root s s')
    (ha : s'.world.writer.alive = true) : s.world.writer.alive = true := by
  cases hs with
  | works hs => exact h.alive_of_works hsink hroot hs ha
  | raise | edit => exact ha

theorem Sound.scheduled (h : Sound t e root w s) (schedule : List Nat) :
    Tame (Spots w.disk) (Asked e (encode root) w) { s.world with schedule } ∧
      Serving { s.world with schedule } :=
  ⟨h.tame.congr rfl rfl, h.serving.congr rfl⟩

section Functional

variable (hf : Functional t) (hsink : t.sink = .writer) (hroot : Path.Resolved root)
include hf hsink hroot

theorem Sound.works (h : Sound t e root w s) (hs : Works t e root s s') :
    Sound t e root w s' := by
  have houtlasts := spots_outlasts w.disk (Asked e (encode root) w)
  cases hs with
  | @take event later hlive hinbox htodo hheld =>
    refine ⟨h.tame, h.serving, fun other ho ↦ h.told other ?_, ?_, h.spot, h.requests_eq, h.full⟩
    · simpa [hinbox] using ho
    · have horder := h.order_eq
      simp only [htodo, hheld, Option.toList_none, List.map_nil, List.append_nil] at horder ⊢
      rw [horder, List.flatMap_append, List.flatMap_singleton]
  | @read path later w' schedule hlive htodo hheld hpause =>
    have htame := (h.scheduled schedule).1.pause houtlasts
    have hserving := (h.scheduled schedule).2.pause
    rw [hpause] at htame hserving
    refine ⟨htame, hserving, h.told, ?_, ?_, ?_, fun hfails ↦ ?_⟩
    · simpa [htodo, hheld] using h.order_eq
    · rintro _ content ⟨⟩ hfound
      obtain ⟨spot, hspot⟩ := Disk.exists_spot_of_readText hfound
      rw [← htame.disk, hspot]
      rfl
    · rw [← hpause, World.calls_pause]
      exact h.requests_eq
    · rw [hlive] at hfails
      cases hfails
  | @act turn outcome _ schedule hlive hheld hact =>
    have hfull {fault : Disk.Fault} (hfails : outcome = .error fault) :=
      outputFull_of_update (hfails ▸ hact)
    obtain rfl := congrArg Prod.snd hact
    have hm := (h.sheet_of_held hroot hheld).isModule
    obtain ⟨htame, hserving⟩ := Turn.act_tame hsink (h.scheduled schedule).1
      (h.scheduled schedule).2 hm (fun r ↦ h.asked hroot hheld) houtlasts
    refine ⟨htame, hserving, h.told, ?_, by simp, ?_, hfull⟩
    · simpa [hheld] using h.order_eq
    · dsimp only
      rw [List.filterMap_append, ← List.append_assoc, ← h.requests_eq,
        hf.request?_eq w.disk s.world.disk]
      rcases turn.act_cases (t := t) hm { s.world with schedule } with
        ⟨hnone, hsame⟩ | ⟨r, noted, hr, hnoted, hsame⟩
      · rw [hsame.requests_eq]
        simp [hnone]
      · rw [hsame.requests_eq, World.requests_submit, hnoted.requests_eq]
        simp [hr]
  | work =>
    refine ⟨h.tame.work houtlasts, h.serving.work, h.told, h.order_eq, h.spot, ?_, fun hfails ↦ ?_⟩
    · rw [World.calls_work]
      exact h.requests_eq
    · exact (congrArg Prod.snd (World.stdout_work s.world)).trans (h.full hfails)

theorem Sound.step (h : Sound t e root w s) (hs : Step t e root s s') :
    Sound t e root w s' := by
  cases hs with
  | works hs => exact h.works hf hsink hroot hs
  | raise event htold =>
    refine ⟨h.tame, h.serving, fun other ho ↦ ?_, h.order_eq, h.spot, h.requests_eq, h.full⟩
    rw [← List.append_assoc] at ho
    rcases List.mem_append.1 ho with ho | ho
    · exact h.told other ho
    · exact List.mem_singleton.1 ho ▸ htold
  | edit hedit =>
    obtain ⟨_, -, hdisturbs⟩ := Edit.exists_disturbs hedit
    refine ⟨⟨fun path ↦ ?_, h.tame.queue⟩, h.serving.congr rfl, h.told, h.order_eq, h.spot,
      h.requests_eq, h.full⟩
    rw [hdisturbs.spot?_eq, h.tame.disk]

theorem Sound.run (h : Sound t e root w s) (hs : ReflTransGen (Step t e root) s s') :
    Sound t e root w s' := by
  induction hs with
  | refl => exact h
  | tail _ hs ih => exact ih.step hf hsink hroot hs

end Functional

end Loop

end StyleTypings.Watch
