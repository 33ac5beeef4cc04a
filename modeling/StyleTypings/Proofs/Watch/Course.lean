import StyleTypings.Proofs.Walk.Course
import StyleTypings.Proofs.World.Output
import StyleTypings.Watch

namespace StyleTypings.Watch

open Text (Bytes encode)
open World (Noted Submitted requests run_bind)

variable {t : Toolchain} {e : Exclusion} {w w' : World}

structure Unmoved (w w' : World) : Prop where
  disk_eq : w'.disk = w.disk
  writer_eq : w'.writer = w.writer
  requests_eq : requests w'.calls = requests w.calls

theorem unmoved_print (w : World) (text : String) : Unmoved w ((World.print text).run w).2 :=
  ⟨(World.frame_print w text).1, (World.frame_print w text).2,
    congrArg requests (World.calls_print w text)⟩

theorem run_regenerate (path : String) (w : World) :
    (regenerate t path).run w =
      (update t path ((World.pause.run w).2.disk.readText (encode path))).run
        (World.pause.run w).2 := rfl

/-- Acting on a file submits its typings, unless it could not be read or its names cannot be
found. -/
theorem update_cases (w : World) {text : String} (hm : Module.isModule text = true)
    (found : Except Disk.Fault String) :
    ((∀ content names, found = .ok content → t.namesOf w.disk content text ≠ .ok names) ∧
      Unmoved w ((update t text found).run w).2) ∨
    ∃ content names noted, found = .ok content ∧ t.namesOf w.disk content text = .ok names ∧
      Noted w noted ∧
      Unmoved ((t.capabilities.submit (t.requestFor w.disk names text)).run noted).2
        ((update t text found).run w).2 := by
  cases found with
  | error fault =>
    left
    cases fault <;> exact ⟨by simp, rfl, rfl, rfl⟩
  | ok content =>
    obtain ⟨noted, hnoted, hgen⟩ := World.run_generate t w content hm
    simp only [update, run_bind, hgen]
    cases hnames : t.namesOf w.disk content text with
    | error f =>
      left
      refine ⟨?_, hnoted.disk_eq, hnoted.writer_eq, hnoted.requests_eq⟩
      rintro _ names ⟨⟩
      simp [hnames]
    | ok names => exact .inr ⟨content, names, noted, rfl, hnames, hnoted, unmoved_print _ _⟩

theorem regenerate_cases (w : World) {text : String} (hm : Module.isModule text = true) :
    ((∀ content names, (World.pause.run w).2.disk.readText (encode text) = .ok content →
        t.namesOf (World.pause.run w).2.disk content text ≠ .ok names) ∧
      Unmoved (World.pause.run w).2 ((regenerate t text).run w).2) ∨
    ∃ w', Submitted t text (World.pause.run w).2 w' ∧
      Unmoved w' ((regenerate t text).run w).2 := by
  rw [run_regenerate]
  refine (update_cases _ hm _).imp_right ?_
  rintro ⟨content, names, noted, hread, hnames, hnoted, hsame⟩
  exact ⟨_, ⟨content, names, noted, hread, hnames, hnoted, rfl⟩, hsame⟩

/-- Stylesheets are gone over one by one, up to the first one whose line cannot be printed. -/
theorem run_regenerateAll_cons {path : String} {rest : List String}
    {answer : Except Disk.Fault Unit} (h : (regenerateAll t (path :: rest)).run w = (answer, w')) :
    (∃ fault, ((regenerate t path).run w).1 = .error fault ∧ answer = .error fault ∧
      w' = ((regenerate t path).run w).2) ∨
    ((regenerate t path).run w).1 = .ok () ∧
      (regenerateAll t rest).run ((regenerate t path).run w).2 = (answer, w') := by
  simp only [regenerateAll, run_bind] at h
  cases hfirst : ((regenerate t path).run w).1 with
  | error fault =>
    rw [hfirst] at h
    obtain ⟨rfl, rfl⟩ := Prod.mk.inj h
    exact .inl ⟨fault, rfl, rfl, rfl⟩
  | ok _ =>
    rw [hfirst] at h
    exact .inr ⟨rfl, h⟩

theorem mem_of_mem_distinctPaths {seen paths : List String} {p : String}
    (h : p ∈ distinctPaths seen paths) : p ∈ paths := by
  induction paths generalizing seen with
  | nil => exact h
  | cons q paths ih =>
    unfold distinctPaths at h
    split at h
    · exact List.mem_cons_of_mem _ (ih h)
    · rcases List.mem_cons.1 h with rfl | h
      · exact List.mem_cons_self ..
      · exact List.mem_cons_of_mem _ (ih h)

theorem exists_same_of_mem (seen : List String) {paths : List String} {p : String} (h : p ∈ paths) :
    ∃ q, (q ∈ seen ∨ q ∈ distinctPaths seen paths) ∧ Path.same q p = true := by
  have hself : Path.same p p = true := by simp [Path.same]
  induction paths generalizing seen with
  | nil => cases h
  | cons first paths ih =>
    unfold distinctPaths
    split
    next hseen =>
      rcases List.mem_cons.1 h with rfl | h
      · obtain ⟨q, hq, hs⟩ := List.any_eq_true.1 hseen
        exact ⟨q, .inl hq, hs⟩
      · exact ih seen h
    next =>
      rcases List.mem_cons.1 h with rfl | h
      · exact ⟨p, .inr (List.mem_cons_self ..), hself⟩
      · obtain ⟨q, hq | hq, hs⟩ := ih (first :: seen) h
        · rcases List.mem_cons.1 hq with rfl | hq
          · exact ⟨q, .inr (List.mem_cons_self ..), hs⟩
          · exact ⟨q, .inl hq, hs⟩
        · exact ⟨q, .inr (List.mem_cons_of_mem _ hq), hs⟩

theorem of_mem_changedStylesheets {paths : List Bytes} {root p : String}
    (h : p ∈ changedStylesheets paths root e) : encode p ∈ paths ∧ concerns e root p = true := by
  have hmem := mem_of_mem_distinctPaths h
  obtain ⟨hp, hconcerns⟩ := List.mem_filter.1 hmem
  obtain ⟨path, hpath, hdecode⟩ := List.mem_filterMap.1 hp
  exact ⟨Text.decode?_eq_some_iff.1 hdecode ▸ hpath, hconcerns⟩

theorem exists_same_of_concerns {paths : List Bytes} {root p : String} (hp : encode p ∈ paths)
    (hconcerns : concerns e root p = true) :
    ∃ q ∈ changedStylesheets paths root e, Path.same q p = true := by
  have hmem : p ∈ (paths.filterMap Text.decode?).filter (concerns e root) :=
    List.mem_filter.2 ⟨List.mem_filterMap.2 ⟨_, hp, Text.decode?_eq_some_iff.2 rfl⟩, hconcerns⟩
  obtain ⟨q, hq | hq, hs⟩ := exists_same_of_mem [] hmem
  · cases hq
  · exact ⟨q, hq, hs⟩

theorem outputFull_of_update {text : String} {found : Except Disk.Fault String} {fault : Disk.Fault}
    (h : (update t text found).run w = (.error fault, w')) : w'.outputFull = true := by
  cases found with
  | error reason => cases reason <;> cases (Prod.mk.inj h).1
  | ok content =>
    simp only [update, run_bind] at h
    split at h
    · exact World.outputFull_of_print h
    · cases (Prod.mk.inj h).1
    · cases (Prod.mk.inj h).1

theorem outputFull_update (w : World) {text : String} (hm : Module.isModule text = true)
    (found : Except Disk.Fault String) :
    ((update t text found).run w).2.outputFull = w.outputFull := by
  cases found with
  | error fault => cases fault <;> rfl
  | ok content =>
    obtain ⟨noted, hnoted, hgen⟩ := World.run_generate t w content hm
    have hsame : noted.outputFull = w.outputFull := congrArg Prod.snd hnoted.stdout_eq
    simp only [update, run_bind, hgen]
    cases t.namesOf w.disk content text with
    | error f => exact hsame
    | ok names =>
      exact (congrArg Prod.snd (World.stdout_print _ _)).trans
        ((World.outputFull_capability_submit noted _).trans hsame)

theorem answer_update (hroom : w.outputFull = false) {text : String}
    (hm : Module.isModule text = true) (found : Except Disk.Fault String) :
    ((update t text found).run w).1 = .ok () := by
  have hfull := outputFull_update (t := t) w hm found
  cases hrun : (update t text found).run w with
  | mk answer w' =>
    cases answer with
    | ok _ => rfl
    | error fault =>
      rw [hrun, hroom, outputFull_of_update hrun] at hfull
      cases hfull

end StyleTypings.Watch
