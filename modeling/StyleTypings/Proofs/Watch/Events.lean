import StyleTypings.Proofs.Watch.Upkeep

namespace StyleTypings.Watch

open Disk (Location Node)
open Text (Bytes encode encodeChars)
open Walk (Chosen Keeps pathBelow stylesheet?)
open World (Serves Steady)

variable {t : Toolchain} {e : Exclusion} {d : Disk} {root : String} {top : Location} {n : Node}
  {text : String} {w w' : World}

theorem concerns_iff_kept (hroot : Path.Resolved root) (g : Setting d e (encode root) top n)
    {l : Location} {m : Node} (hm : n.at? l = some m) (hne : l ≠ [])
    (htext : Text.decode? (pathBelow (encode root) l) = some text) :
    concerns e root text = true ↔ Module.isModule text = true ∧ Walk.Kept e (encode root) l := by
  obtain ⟨base, hbase, rfl⟩ := hroot
  rw [Text.encode_ofList] at g htext ⊢
  rw [concerns, Bool.and_eq_true, Bool.not_eq_true',
    coversAncestor_eq_false_iff_kept hbase (g.plain_of_mem hm) hne htext]

theorem Setting.spot?_of_dir {root : Bytes} (g : Setting d e root top n) {l : Location}
    {es : List (Disk.Name × Node)} (hd : n.at? l = some (.dir es)) :
    d.spot? (pathBelow root l) = none := by
  refine Option.eq_none_iff_forall_ne_some.2 fun spot hspot ↦ ?_
  rcases Disk.spot?_eq_some_iff.1 hspot with ⟨_, _, hl⟩ | hl
  · cases g.dest_eq hd hl
  · cases g.dest_eq hd hl

theorem proper_of_heard (hroot : Path.Resolved root) (g : Setting d e (encode root) top n)
    {paths : List Bytes} (hheard : Heard (encode root) n paths) (hp : encode text ∈ paths)
    (hconcerns : concerns e root text = true) : Proper d e (encode root) n (encode text) := by
  intro other hsheet hspot
  obtain ⟨l, hpath, hat⟩ := hheard _ hp other hsheet
  obtain ⟨htext, hm⟩ := Walk.stylesheet?_eq_some_iff.1 hsheet
  obtain rfl := Text.encode_injective (Text.decode?_eq_some_iff.1 htext)
  obtain ⟨m, hm'⟩ := Option.ne_none_iff_exists'.1 hat
  have hk : m.kind ≠ .dir := by
    intro hk
    cases m with
    | dir es =>
      rw [hpath, g.spot?_of_dir hm'] at hspot
      cases hspot
    | file _ _ | link _ => cases hk
  have hne : l ≠ [] := by
    rintro rfl
    rw [Node.at?_nil] at hm'
    cases hm'
    exact hk g.directory
  rw [hpath] at htext
  exact ⟨l, ⟨m, hm', hk⟩, htext, hm, ((concerns_iff_kept hroot g hm' hne htext).1 hconcerns).2⟩

theorem mem_changedStylesheets (hroot : Path.Resolved root) (g : Setting d e (encode root) top n)
    {paths : List Bytes} (hheard : Heard (encode root) n paths) {l : Location}
    (hc : Chosen e (encode root) n l text) (hp : encode text ∈ paths) :
    text ∈ changedStylesheets paths root e := by
  obtain ⟨m, hm, -⟩ := hc.entry
  have hconcerns :=
    (concerns_iff_kept hroot g hm (g.ne_nil hc) hc.text_eq).2 ⟨hc.isModule, hc.kept⟩
  obtain ⟨other, hother, hsame⟩ := exists_same_of_concerns hp hconcerns
  obtain ⟨hpath, hconcerns'⟩ := of_mem_changedStylesheets hother
  have hsheet : stylesheet? (encode other) = some other :=
    Walk.stylesheet?_eq_some_iff.2 ⟨Text.decode?_eq_some_iff.2 rfl,
      (Bool.and_eq_true_iff.1 hconcerns').1⟩
  obtain ⟨l', hl', hat⟩ := hheard _ hpath other hsheet
  obtain ⟨m', hm'⟩ := Option.ne_none_iff_exists'.1 hat
  have htext' : Text.decode? (pathBelow (encode root) l') = some other :=
    Text.decode?_eq_some_iff.2 hl'
  obtain ⟨base, hbase, rfl⟩ := hroot
  have htext := hc.text_eq
  rw [Text.encode_ofList] at g htext htext'
  rw [← eq_of_same hbase (g.plain_of_mem hm') (g.plain_of_mem hm) htext' htext hsame]
  exact hother

/-- Acting on an event leaves the typings of a stylesheet up to date, and brings them so if the
event names it and nothing goes wrong with the output. -/
theorem react_upkeep (hf : Functional t) (hsink : t.sink = .writer) (hroot : Path.Resolved root)
    (g : Setting d e (encode root) top n) (ha : Apart d e (encode root) n text) {l : Location}
    (hc : Chosen e (encode root) n l text) {paths : List Bytes}
    (hheard : Heard (encode root) n paths)
    (hst : Steady (Keeps d) (Wanted e (encode root) n) w) {answer : Except Disk.Fault Unit}
    (h : (react t e root paths).run w = (answer, w')) :
    Steady (Keeps d) (Wanted e (encode root) n) w' ∧ (Current t text w → Current t text w') ∧
      (answer = .ok () → encode text ∈ paths → Current t text w') := by
  have hothers : ∀ other ∈ changedStylesheets paths root e,
      Module.isModule other = true ∧ Proper d e (encode root) n (encode other) := by
    intro other ho
    obtain ⟨hp, hconcerns⟩ := of_mem_changedStylesheets ho
    exact ⟨(Bool.and_eq_true_iff.1 hconcerns).1, proper_of_heard hroot g hheard hp hconcerns⟩
  obtain ⟨hst', hkept, hbrought⟩ := regenerateAll_upkeep hf hsink (g.serves ha) _ hothers hst h
  exact ⟨hst', hkept, fun hanswer hp ↦
    hbrought hanswer (mem_changedStylesheets hroot g hheard hc hp)⟩

end StyleTypings.Watch
