import StyleTypings.Proofs.Watch.Links

namespace StyleTypings.Watch

open Disk (Location Node)
open StyleTypings.Path (Named spelled)
open Text (Bytes encode)
open Walk (Chosen Kept ending pathBelow stylesheet?)

variable {e : Exclusion} {d : Disk} {root text : String}

structure Sheet (e : Exclusion) (root : Bytes) (text : String) : Prop where
  place : ∃ l, (∀ x ∈ l, Disk.Plain x) ∧ Text.decode? (pathBelow root l) = some text ∧ Kept e root l
  isModule : Module.isModule text = true

/-- The paths of an event: where they are those of module stylesheets, they lead from the root to an
entry, whether it is there or not. -/
def Told (root : Bytes) (paths : List Bytes) : Prop :=
  ∀ path ∈ paths, ∀ text, stylesheet? path = some text →
    ∃ l, (∀ x ∈ l, Disk.Plain x) ∧ path = pathBelow root l

theorem coversAncestor_root {base : List (List Char)} (hbase : ∀ p ∈ base, Named p) :
    e.coversAncestor (String.ofList (spelled base)) (String.ofList (spelled base)) = false := by
  rw [← Bool.not_eq_true, Exclusion.coversAncestor_iff_exists]
  rintro ⟨dir, hdir, hs, -⟩
  rcases List.eq_nil_or_concat base with rfl | ⟨front, piece, rfl⟩
  · have hnone : Path.ancestors (String.ofList (spelled [])) = [] := by decide
    rw [hnone] at hdir
    cases hdir
  · rw [List.concat_eq_append] at hbase hdir hs
    have hfront : ∀ p ∈ front, Named p := fun p hp ↦ hbase p (List.mem_append_left _ hp)
    rw [Path.ancestors_spelled hfront piece (hbase piece (by simp))] at hdir
    simp only [List.mem_map, List.mem_reverse, List.mem_inits] at hdir
    obtain ⟨above, hp, rfl⟩ := hdir
    rw [Path.startsWith_spelled_iff (fun p hm ↦ hfront p (hp.subset hm)) hbase] at hs
    have hle := (hs.trans hp).length_le
    simp at hle

theorem concerns_iff_sheet (hroot : Path.Resolved root) {l : Location}
    (hl : ∀ x ∈ l, Disk.Plain x)
    (htext : Text.decode? (pathBelow (encode root) l) = some text) :
    concerns e root text = true ↔ Sheet e (encode root) text := by
  obtain ⟨base, hbase, rfl⟩ := hroot
  have hkept : e.coversAncestor text (String.ofList (spelled base)) = false ↔
      Kept e (encode (String.ofList (spelled base))) l := by
    by_cases hne : l = []
    · subst hne
      obtain rfl : text = String.ofList (spelled base) :=
        Text.encode_injective (Text.decode?_eq_some_iff.1 htext)
      exact iff_of_true (coversAncestor_root hbase) (Walk.kept_nil _ _)
    · rw [Text.encode_ofList] at htext ⊢
      exact coversAncestor_eq_false_iff_kept hbase hl hne htext
  rw [concerns, Bool.and_eq_true, Bool.not_eq_true']
  constructor
  · rintro ⟨hm, hcovers⟩
    exact ⟨⟨l, hl, htext, hkept.1 hcovers⟩, hm⟩
  · rintro ⟨⟨l', hl', htext', hk⟩, hm⟩
    refine ⟨hm, ?_⟩
    by_cases hne : l' = []
    · subst hne
      obtain rfl : text = String.ofList (spelled base) :=
        Text.encode_injective (Text.decode?_eq_some_iff.1 htext')
      exact coversAncestor_root hbase
    · rw [Text.encode_ofList] at htext' hk
      exact (coversAncestor_eq_false_iff_kept hbase hl' hne htext').2 hk

/-- An event asks for the typings of exactly the stylesheets that it names and that are not
excluded, if it is of a kind that counts. -/
theorem mem_stylesheets_iff (hroot : Path.Resolved root) {event : Event}
    (htold : Told (encode root) event.paths) :
    text ∈ event.stylesheets root e ↔
      event.counts = true ∧ Sheet e (encode root) text ∧ encode text ∈ event.paths := by
  have hplace : ∀ {other}, Module.isModule other = true → encode other ∈ event.paths →
      ∃ l, (∀ x ∈ l, Disk.Plain x) ∧ Text.decode? (pathBelow (encode root) l) = some other := by
    intro other hm hp
    obtain ⟨l, hl, hpath⟩ := htold _ hp other
      (Walk.stylesheet?_eq_some_iff.2 ⟨Text.decode?_eq_some_iff.2 rfl, hm⟩)
    exact ⟨l, hl, Text.decode?_eq_some_iff.2 hpath⟩
  unfold Event.stylesheets
  cases event.counts with
  | false => simp
  | true =>
    simp only [if_true, true_and]
    constructor
    · intro h
      obtain ⟨hp, hconcerns⟩ := of_mem_changedStylesheets h
      obtain ⟨l, hl, htext⟩ := hplace (Bool.and_eq_true_iff.1 hconcerns).1 hp
      exact ⟨(concerns_iff_sheet hroot hl htext).1 hconcerns, hp⟩
    · rintro ⟨hsheet, hp⟩
      obtain ⟨l, hl, htext⟩ := hplace hsheet.isModule hp
      obtain ⟨other, hother, hsame⟩ :=
        exists_same_of_concerns hp ((concerns_iff_sheet hroot hl htext).2 hsheet)
      obtain ⟨hp', hconcerns⟩ := of_mem_changedStylesheets hother
      obtain ⟨l', hl', htext'⟩ := hplace (Bool.and_eq_true_iff.1 hconcerns).1 hp'
      obtain ⟨base, hbase, rfl⟩ := hroot
      rw [Text.encode_ofList] at htext htext'
      rw [← eq_of_same hbase hl' hl htext' htext hsame]
      exact hother

structure Possible (d : Disk) (e : Exclusion) (root : Bytes) (text : String) : Prop
    extends Sheet e root text where
  spot : (d.spot? (encode text)).isSome

def Asked (e : Exclusion) (root : Bytes) (w : World) (r : WriteRequest) : Prop :=
  r ∈ w.writer.queue ∨ ∃ text, Possible w.disk e root text ∧ r.target = Module.typingsPath text

/-- A stylesheet whose file no request touches, and whose typings can be written and are touched by
no request but their own ones. -/
structure Separate (e : Exclusion) (root : Bytes) (w : World) (text : String) : Prop where
  writable : (w.disk.spot? (encode (Module.typingsPath text))).isSome
  file (r : WriteRequest) : Asked e root w r → (w.disk.spot? (encode r.target)).isSome →
    w.disk.spot? (encode r.target) ≠ w.disk.spot? (encode text)
  typings (r : WriteRequest) : Asked e root w r →
    w.disk.spot? (encode r.target) = w.disk.spot? (encode (Module.typingsPath text)) →
    r.target = Module.typingsPath text

section Ground

variable {root : Bytes} {top : Location} {n : Node} (g : Walk.Ground d root top n)
  (hn : NoLinks n)
include g hn

theorem dir_of_no_links {l location : Location} (hl : ∀ x ∈ l, Disk.Plain x)
    {es : List (Disk.Name × Node)}
    (h : d.lookup (pathBelow root l) true = .ok (.found location (.dir es))) :
    location = top ++ l ∧ n.at? l = some (.dir es) := by
  induction l using List.reverseRecOn generalizing location es with
  | nil =>
    rw [show pathBelow root [] = root from rfl, g.rooted] at h
    cases h
    simp
  | append_singleton above x ih =>
    have habove : ∀ y ∈ above, Disk.Plain y := fun y hy ↦ hl y (by simp [hy])
    have hx := hl x (by simp)
    have hne := Walk.pathBelow_ne_nil (Disk.ne_nil_of_lookup g.rooted) habove
    obtain ⟨location', fs, hopen⟩ :=
      Disk.exists_dir_of_lookup_join hne hx (Walk.pathBelow_append_name .. ▸ h)
    obtain ⟨-, hd⟩ := ih habove hopen
    obtain ⟨hm, rfl⟩ := Disk.found_eq_entryAt_iff.1 (dest_eq_entryAt g hn hd hx h)
    rw [Node.at?_append_name hd]
    exact ⟨List.append_assoc .., hm⟩

theorem spot_eq_of_plain {above : Location} {x : Disk.Name} {spot : Location}
    (hl : ∀ y ∈ above ++ [x], Disk.Plain y)
    (h : d.spot? (pathBelow root (above ++ [x])) = some spot) : spot = top ++ above ++ [x] := by
  have habove : ∀ y ∈ above, Disk.Plain y := fun y hy ↦ hl y (by simp [hy])
  have hx := hl x (by simp)
  have hne := Walk.pathBelow_ne_nil (Disk.ne_nil_of_lookup g.rooted) habove
  obtain ⟨dest, hdest⟩ : ∃ dest, d.lookup (pathBelow root (above ++ [x])) true = .ok dest := by
    rcases Disk.spot?_eq_some_iff.1 h with ⟨_, _, hl⟩ | hl <;> exact ⟨_, hl⟩
  obtain ⟨location, es, hopen⟩ :=
    Disk.exists_dir_of_lookup_join hne hx (Walk.pathBelow_append_name .. ▸ hdest)
  exact spot_eq_of_no_links g hn (dir_of_no_links g hn habove hopen).2 hx h

theorem Possible.exists_entry {text : String} (hk : n.kind = .dir) (hs : Possible d e root text) :
    ∃ above x, (∀ y ∈ above ++ [x], Disk.Plain y) ∧
      Text.decode? (pathBelow root (above ++ [x])) = some text ∧
      d.spot? (encode text) = some (top ++ above ++ [x]) ∧
      ∀ spot, d.spot? (encode (Module.typingsPath text)) = some spot →
        spot = top ++ above ++ [x ++ ending] := by
  obtain ⟨l, hl, htext, -⟩ := hs.place
  have hpath := Text.decode?_eq_some_iff.1 htext
  obtain ⟨spot, hspot⟩ := Option.isSome_iff_exists.1 hs.spot
  rw [hpath] at hspot
  rcases List.eq_nil_or_concat l with rfl | ⟨above, x, rfl⟩
  · rw [show pathBelow root [] = root from rfl, Disk.spot?, g.rooted] at hspot
    cases n with
    | dir es => cases hspot
    | file _ _ | link _ => cases hk
  · rw [List.concat_eq_append] at hl hpath htext hspot
    have hx := hl x (by simp)
    refine ⟨above, x, hl, htext, ?_, fun spot htypings ↦ ?_⟩
    · rw [hpath, hspot, spot_eq_of_plain g hn hl hspot]
    · rw [Walk.encode_typingsPath htext, Walk.pathBelow_append_name, Walk.join_append _ hx,
        ← Walk.pathBelow_append_name] at htypings
      refine spot_eq_of_plain g hn (fun y hy ↦ ?_) htypings
      rcases List.mem_append.1 hy with hy | hy
      · exact hl y (by simp [hy])
      · exact List.mem_singleton.1 hy ▸ Walk.plain_append_ending hx

end Ground

end StyleTypings.Watch
