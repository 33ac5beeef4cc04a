import StyleTypings.Proofs.Watch.Agreement
import StyleTypings.Proofs.Watch.Course
import StyleTypings.Proofs.Watch.Session

namespace StyleTypings.Watch

open Disk (Location Name Node)
open Text (Bytes encode)
open Walk (Admits Chosen Keeps Opened ending pathBelow stylesheet?)
open World (Holds Serves Steady Submitted promised)

variable {t : Toolchain} {e : Exclusion} {d : Disk} {root : Bytes} {top : Location} {n : Node}
  {text : String} {w w' w'' : World}

def Wanted (e : Exclusion) (root : Bytes) (n : Node) (r : WriteRequest) : Prop :=
  ∃ l text, Chosen e root n l text ∧ r.target = Module.typingsPath text

theorem Setting.ne_nil (g : Setting d e root top n) {l : Location}
    (hc : Chosen e root n l text) : l ≠ [] := by
  obtain ⟨above, x, es, rfl, -⟩ := g.exists_entry g.directory hc
  simp

theorem Setting.admits (g : Setting d e root top n) {r : WriteRequest} (h : Wanted e root n r) :
    Admits d root top r := by
  obtain ⟨l, text, hc, hr⟩ := h
  obtain ⟨above, x, es, rfl, hx, hd, hpath⟩ := g.exists_entry g.directory hc
  obtain ⟨m, hm, -⟩ := hc.entry
  have hopen : Opened d root top above := by
    obtain ⟨spot, hspot⟩ := Option.isSome_iff_exists.1 (g.writable _ _ hc)
    rw [hpath] at hspot
    rcases Disk.spot?_eq_some_iff.1 hspot with ⟨_, _, hl⟩ | hl <;>
      exact ⟨es, g.lookup_above hd (Walk.plain_append_ending hx) hl⟩
  refine ⟨above, x, text, hopen, hx, ?_, hc.text_eq, hr, ?_⟩
  · rw [List.append_assoc, g.at?_append, hm]
    simp
  · rw [hr]
    exact g.not_dangling _ text hc

theorem spot?_eq_of_keeps {d' : Disk} (hk : Keeps d d') (path : Bytes) :
    d'.spot? path = d.spot? path :=
  Disk.spot?_eq_of_grows hk.grows path

theorem Setting.serves (g : Setting d e root top n) (ha : Apart d e root n text) :
    Serves (Keeps d) (Wanted e root n) text (Module.typingsPath text) where
  writes d' r hk h := by
    obtain ⟨l, other, hc, hr⟩ := h
    obtain ⟨spot, hspot⟩ := Option.isSome_iff_exists.1 (g.writable _ _ hc)
    rw [← hr, ← spot?_eq_of_keeps hk] at hspot
    obtain ⟨d'', hw⟩ := Disk.exists_write hspot (encode r.contents)
    exact ⟨d'', hw, Walk.keeps_outlasts d root top d' r d'' hk (g.admits ⟨l, other, hc, hr⟩) hw⟩
  off_path d' r hk h := by
    obtain ⟨l, other, hc, hr⟩ := h
    rw [spot?_eq_of_keeps hk, spot?_eq_of_keeps hk, hr]
    exact ha.file l other hc
  off_target d' r hk h hspot := by
    obtain ⟨l, other, hc, hr⟩ := h
    rw [spot?_eq_of_keeps hk, spot?_eq_of_keeps hk, hr] at hspot
    rw [hr, ha.typings l other hc hspot]

def Current (t : Toolchain) (text : String) (w : World) : Prop :=
  ∀ content names, w.disk.seen? (encode text) = some content →
    t.namesOf w.disk content text = .ok names →
      promised w (Module.typingsPath text) = some (t.requestFor w.disk names text).contents

theorem Functional.namesOf_eq (hf : Functional t) (d d' : Disk) : t.namesOf d = t.namesOf d' := by
  unfold Toolchain.namesOf
  rw [hf.compile d d']

theorem Functional.requestFor_eq (hf : Functional t) (d d' : Disk) :
    t.requestFor d = t.requestFor d' := by
  unfold Toolchain.requestFor Toolchain.formattedText
  rw [hf.format d d']

theorem Current.of_holds (hf : Functional t) (hc : Current t text w)
    (h : Holds text (Module.typingsPath text) w w') : Current t text w' := by
  intro content names hcontent hnames
  rw [h.seen?_eq] at hcontent
  rw [hf.namesOf_eq w'.disk w.disk] at hnames
  rw [h.promised_eq, hf.requestFor_eq w'.disk w.disk, hc content names hcontent hnames]

theorem typingsPath_injective {a b : String}
    (h : Module.typingsPath a = Module.typingsPath b) : a = b := by
  have hbytes := congrArg encode h
  rw [Module.typingsPath, Module.typingsPath, Text.encode_append, Text.encode_append] at hbytes
  exact Text.encode_injective (List.append_cancel_right hbytes)

def Proper (d : Disk) (e : Exclusion) (root : Bytes) (n : Node) (path : Bytes) : Prop :=
  ∀ text, stylesheet? path = some text → (d.spot? path).isSome → ∃ l, Chosen e root n l text

theorem Proper.chosen {path : Bytes} (hp : Proper d e root n path)
    (hsheet : stylesheet? path = some text) {d' : Disk} (hk : Keeps d d')
    (hread : ∃ content, d'.readText path = .ok content) : ∃ l, Chosen e root n l text := by
  obtain ⟨content, hread⟩ := hread
  obtain ⟨spot, hspot⟩ := Disk.exists_spot_of_readText hread
  rw [spot?_eq_of_keeps hk] at hspot
  exact hp text hsheet (by simp [hspot])

section Serves

variable (hf : Functional t) (hsink : t.sink = .writer)
  (hs : Serves (Keeps d) (Wanted e root n) text (Module.typingsPath text))
include hf hsink hs

/-- Submitting typings brings those of one stylesheet up to date, and leaves those of others so. -/
theorem submitted_upkeep {l : Location} {other : String} (hc : Chosen e root n l other)
    (hst : Steady (Keeps d) (Wanted e root n) w) (h : Submitted t other w w') :
    Steady (Keeps d) (Wanted e root n) w' ∧
      (Current t text w ∨ other = text → Current t text w') := by
  obtain ⟨content, names, noted, hread, hnames, hnoted, rfl⟩ := h
  have htarget : (t.requestFor w.disk names other).target = Module.typingsPath other := rfl
  have hw : Wanted e root n (t.requestFor w.disk names other) := ⟨l, other, hc, htarget⟩
  have hsame : Holds text (Module.typingsPath text) w
      { noted with calls := noted.calls ++ [.submit (t.requestFor w.disk names other)] } :=
    .of_eq hnoted.disk_eq hnoted.writer_eq
  obtain ⟨hst', htext, hpromised⟩ :=
    Steady.submit hs (hst.congr hnoted.disk_eq hnoted.writer_eq) hw (w := { noted with
      calls := noted.calls ++ [.submit (t.requestFor w.disk names other)] })
  rw [World.run_submit_of_writer noted hsink]
  generalize ((World.submit (t.requestFor w.disk names other)).run { noted with
    calls := noted.calls ++ [.submit (t.requestFor w.disk names other)] }).2 = w'
    at hst' htext hpromised ⊢
  rw [hsame.seen?_eq] at htext
  rw [hsame.promised_eq, htarget] at hpromised
  refine ⟨hst', fun hcurrent ↦ ?_⟩
  by_cases ho : other = text
  · subst ho
    intro content' names' hcontent' hnames'
    rw [htext, Disk.seen?_eq_some_iff, hread] at hcontent'
    cases hcontent'
    rw [hf.namesOf_eq w'.disk w.disk, hnames] at hnames'
    cases hnames'
    rw [hpromised, if_pos rfl, hf.requestFor_eq w'.disk w.disk]
  · refine (hcurrent.resolve_right ho).of_holds hf ⟨htext, ?_⟩
    rw [hpromised, if_neg fun h ↦ ho (typingsPath_injective h)]

theorem visitFile_upkeep (hm : Module.isModule text = true) {path : Bytes} {target : Option String}
    (hp : Proper d e root n path) (hst : Steady (Keeps d) (Wanted e root n) w)
    (h : (Walk.visitFile t path).run w = (.ok target, w')) :
    Steady (Keeps d) (Wanted e root n) w' ∧
      (Current t text w ∨ path = encode text → Current t text w') := by
  rcases Walk.visitFile_cases h with ⟨hnone, -, hnoted⟩ | ⟨other, hsheet, -, hsubmitted⟩
  · refine ⟨hst.congr hnoted.disk_eq hnoted.writer_eq, fun hcurrent ↦ ?_⟩
    have hne : path ≠ encode text := by
      rintro rfl
      rw [Walk.stylesheet?_eq_some_iff.2 ⟨Text.decode?_eq_some_iff.2 rfl, hm⟩] at hnone
      cases hnone
    exact (hcurrent.resolve_right hne).of_holds hf (.of_eq hnoted.disk_eq hnoted.writer_eq)
  · obtain ⟨hst₁, hholds⟩ := hst.pause hs
    have hpath : encode other = path :=
      Text.decode?_eq_some_iff.1 (Walk.stylesheet?_eq_some_iff.1 hsheet).1
    obtain ⟨l, hc⟩ := hp.chosen hsheet hst₁.disk (by
      obtain ⟨content, names, noted, hread, -⟩ := hsubmitted
      exact ⟨content, hpath ▸ hread⟩)
    obtain ⟨hst', hcurrent'⟩ := submitted_upkeep hf hsink hs hc hst₁ hsubmitted
    refine ⟨hst', fun hcurrent ↦ hcurrent' (hcurrent.imp (·.of_holds hf hholds) fun he ↦ ?_)⟩
    exact Text.encode_injective (hpath.trans he)

theorem regenerate_upkeep {other : String} (hm : Module.isModule other = true)
    (hp : Proper d e root n (encode other)) (hst : Steady (Keeps d) (Wanted e root n) w) :
    Steady (Keeps d) (Wanted e root n) ((regenerate t other).run w).2 ∧
      (Current t text w ∨ other = text → Current t text ((regenerate t other).run w).2) := by
  obtain ⟨hst₁, hholds⟩ := hst.pause hs
  rcases regenerate_cases (t := t) w hm with ⟨hfails, hsame⟩ | ⟨w₂, hsubmitted, hsame⟩
  · obtain ⟨hd, hw⟩ := And.intro hsame.disk_eq hsame.writer_eq
    refine ⟨hst₁.congr hd hw, ?_⟩
    rintro (hcurrent | rfl)
    · exact hcurrent.of_holds hf (hholds.trans (.of_eq hd hw))
    · intro content names hcontent hnames
      rw [hd, Disk.seen?_eq_some_iff] at hcontent
      exact absurd (hd ▸ hnames) (hfails content names hcontent)
  · obtain ⟨hd, hw⟩ := And.intro hsame.disk_eq hsame.writer_eq
    have hsheet : stylesheet? (encode other) = some other :=
      Walk.stylesheet?_eq_some_iff.2 ⟨Text.decode?_eq_some_iff.2 rfl, hm⟩
    obtain ⟨l, hc⟩ := hp.chosen hsheet hst₁.disk (by
      obtain ⟨content, names, noted, hread, -⟩ := hsubmitted
      exact ⟨content, hread⟩)
    obtain ⟨hst₂, hcurrent₂⟩ := submitted_upkeep hf hsink hs hc hst₁ hsubmitted
    refine ⟨hst₂.congr hd hw, fun hcurrent ↦ ?_⟩
    exact (hcurrent₂ (hcurrent.imp_left (·.of_holds hf hholds))).of_holds hf (.of_eq hd hw)

/-- Going over some stylesheets leaves typings that are up to date so, and brings those of each of
them up to date if it comes to its end. -/
theorem regenerateAll_upkeep (others : List String)
    (hothers : ∀ other ∈ others, Module.isModule other = true ∧ Proper d e root n (encode other))
    (hst : Steady (Keeps d) (Wanted e root n) w) {answer : Except Disk.Fault Unit}
    (h : (regenerateAll t others).run w = (answer, w')) :
    Steady (Keeps d) (Wanted e root n) w' ∧ (Current t text w → Current t text w') ∧
      (answer = .ok () → text ∈ others → Current t text w') := by
  induction others generalizing w with
  | nil =>
    obtain ⟨-, rfl⟩ := Prod.mk.inj h
    exact ⟨hst, id, fun _ ht ↦ absurd ht (by simp)⟩
  | cons other others ih =>
    obtain ⟨hm, hp⟩ := hothers other (List.mem_cons_self ..)
    obtain ⟨hst₁, hcurrent₁⟩ := regenerate_upkeep hf hsink hs hm hp hst
    rcases run_regenerateAll_cons h with ⟨fault, -, rfl, rfl⟩ | ⟨-, h'⟩
    · exact ⟨hst₁, fun hc ↦ hcurrent₁ (.inl hc), nofun⟩
    · obtain ⟨hst₂, hkept, hbrought⟩ :=
        ih (fun o ho ↦ hothers o (List.mem_cons_of_mem _ ho)) hst₁ h'
      refine ⟨hst₂, fun hc ↦ hkept (hcurrent₁ (.inl hc)), fun hanswer ht ↦ ?_⟩
      rcases List.mem_cons.1 ht with rfl | ht
      · exact hkept (hcurrent₁ (.inr rfl))
      · exact hbrought hanswer ht

end Serves

end StyleTypings.Watch
