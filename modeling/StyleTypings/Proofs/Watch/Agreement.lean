import StyleTypings.Proofs.Path.Ancestors
import StyleTypings.Proofs.Text.Slashes
import StyleTypings.Proofs.Walk.Chosen
import StyleTypings.Watch

namespace StyleTypings.Watch

open Disk (Location Name slash)
open StyleTypings.Path (Named spelled stem)
open Text (Bytes encodeChars)
open Walk (Kept pathBelow)

variable {base names above : List (List Char)} {piece : List Char} {e : Exclusion}

theorem isAbsolute_encodeChars (h : Named piece) : Disk.isAbsolute (encodeChars piece) = false := by
  cases piece with
  | nil => rfl
  | cons c piece =>
    refine Bool.eq_false_iff.2 fun ha ↦ h.no_slash ?_
    obtain ⟨b, bytes, hb⟩ := List.exists_cons_of_ne_nil (String.utf8EncodeChar_ne_nil (c := c))
    rw [Text.encodeChars_cons, hb, Disk.isAbsolute] at ha
    obtain rfl : b = slash := by simpa using ha
    exact Text.eq_slash_of_mem (hb ▸ List.mem_cons_self ..) ▸ List.mem_cons_self ..

theorem getLast?_encodeChars (front : List Char) {c : Char} (hc : c ≠ '/') :
    ((encodeChars (front ++ [c])).getLast?.all (· == slash)) = false := by
  obtain ⟨bytes, b, hb⟩ :=
    (List.eq_nil_or_concat (String.utf8EncodeChar c)).resolve_left String.utf8EncodeChar_ne_nil
  have hne : b ≠ slash := fun he ↦ hc (Text.eq_slash_of_mem (by simp [hb, he]))
  rw [Text.encodeChars_append, Text.encodeChars_cons, hb]
  simp [hne]

theorem join_spelled (h : ∀ p ∈ base, Named p) (hp : Named piece) :
    Disk.join (encodeChars (spelled base)) (encodeChars piece) =
      encodeChars (spelled (base ++ [piece])) := by
  have hslash : String.utf8EncodeChar '/' = [slash] := by decide
  unfold Disk.join
  rw [isAbsolute_encodeChars hp, Path.spelled_append_name]
  rcases List.eq_nil_or_concat base with rfl | ⟨front, p, rfl⟩
  · simp [spelled, stem, Path.joined, hslash]
  · rw [List.concat_eq_append] at h ⊢
    have hp : Named p := h p (by simp)
    obtain ⟨chars, c, rfl⟩ := (List.eq_nil_or_concat p).resolve_left hp.not_empty
    rw [List.concat_eq_append] at hp ⊢
    have hc : c ≠ '/' := fun he ↦ hp.no_slash (by simp [he])
    have hlast := getLast?_encodeChars (stem front ++ chars) hc
    rw [Path.stem_append_name, Path.spelled_append_name, ← List.append_assoc (stem front)]
    simp only [hlast, Bool.false_eq_true, if_false]
    rw [Text.encodeChars_append _ piece, Text.encodeChars_append _ ['/']]
    simp [hslash]

theorem pathBelow_spelled (hbase : ∀ p ∈ base, Named p) (h : ∀ p ∈ names, Named p) :
    pathBelow (encodeChars (spelled base)) (names.map encodeChars) =
      encodeChars (spelled (base ++ names)) := by
  induction names using List.reverseRecOn with
  | nil => simp [pathBelow]
  | append_singleton names piece ih =>
    have hnames : ∀ p ∈ names, Named p := fun p hp ↦ h p (List.mem_append_left _ hp)
    have hall : ∀ p ∈ base ++ names, Named p := by
      intro p hp
      exact (List.mem_append.1 hp).elim (hbase p) (hnames p)
    rw [List.map_append, List.map_singleton, Walk.pathBelow_append_name, ih hnames,
      join_spelled hall (h piece (by simp)), List.append_assoc]

theorem named_of_plain (h : Disk.Plain (encodeChars piece)) : Named piece where
  not_empty := by
    rintro rfl
    exact h.not_empty rfl
  not_dot := by
    rintro rfl
    exact h.not_dot (by decide)
  no_slash hm := by
    obtain ⟨a, b, rfl⟩ := List.append_of_mem hm
    refine h.no_slash ?_
    have hslash : String.utf8EncodeChar '/' = [slash] := by decide
    simp [Text.encodeChars_append, hslash]

theorem exists_names (hbase : ∀ p ∈ base, Named p) {l : Location} (hl : ∀ x ∈ l, Disk.Plain x)
    {text : String} (h : Text.decode? (pathBelow (encodeChars (spelled base)) l) = some text) :
    ∃ names, (∀ p ∈ names, Named p) ∧ l = names.map encodeChars ∧
      text = String.ofList (spelled (base ++ names)) := by
  induction l using List.reverseRecOn generalizing text with
  | nil =>
    refine ⟨[], by simp, rfl, ?_⟩
    rw [List.append_nil]
    apply Text.encode_injective
    rw [Text.decode?_eq_some_iff.1 h, Text.encode_ofList]
    rfl
  | append_singleton l x ih =>
    have hx := hl x (by simp)
    -- Where a path is cut at a slash, what is in front of the slash is text.
    have hcut : ∃ chars piece, pathBelow (encodeChars (spelled base)) l = encodeChars chars ∧
        x = encodeChars piece := by
      have hne : pathBelow (encodeChars (spelled base)) l ≠ [] :=
        Walk.pathBelow_ne_nil (by simp [spelled, String.utf8EncodeChar_ne_nil])
          fun y hy ↦ hl y (by simp [hy])
      rw [Walk.pathBelow_append_name, Text.decode?_eq_some_iff, Text.encode_eq_encodeChars] at h
      rcases Disk.join_cases hne hx with ⟨front, hfront, hjoin⟩ | hjoin
      · obtain ⟨a, b, -, rfl, rfl⟩ := Text.exists_of_encodeChars_eq (h.trans hjoin)
        refine ⟨a ++ ['/'], b, ?_, rfl⟩
        rw [hfront, Text.encodeChars_append]
        rfl
      · obtain ⟨a, b, -, ha, rfl⟩ := Text.exists_of_encodeChars_eq (h.trans hjoin)
        exact ⟨a, b, ha, rfl⟩
    obtain ⟨chars, piece, hchars, rfl⟩ := hcut
    obtain ⟨names, hnames, rfl, -⟩ := ih (fun y hy ↦ hl y (by simp [hy]))
      (Text.decode?_eq_some_iff.2 ((Text.encode_ofList chars).trans hchars.symm))
    have hall : ∀ p ∈ names ++ [piece], Named p := by
      intro p hp
      rcases List.mem_append.1 hp with hp | hp
      · exact hnames p hp
      · exact List.mem_singleton.1 hp ▸ named_of_plain hx
    refine ⟨names ++ [piece], hall, by simp, ?_⟩
    apply Text.encode_injective
    rw [Text.decode?_eq_some_iff.1 h, Text.encode_ofList, ← pathBelow_spelled hbase hall]
    simp

theorem coversAncestor_iff (hbase : ∀ p ∈ base, Named p) (h : ∀ p ∈ names, Named p)
    (hp : Named piece) :
    e.coversAncestor (String.ofList (spelled (base ++ (names ++ [piece]))))
        (String.ofList (spelled base)) = true ↔
      ∃ above, above <+: names ∧ e.excludes (String.ofList (spelled (base ++ above))) = true := by
  have hall : ∀ p ∈ base ++ names, Named p := fun p hp ↦
    (List.mem_append.1 hp).elim (hbase p) (h p)
  have hstarts : ∀ {ps}, ps <+: base ++ names →
      (Path.startsWith (String.ofList (spelled ps)) (String.ofList (spelled base)) = true ↔
        base <+: ps) := fun hps ↦
    Path.startsWith_spelled_iff (fun p hp ↦ hall p (hps.subset hp)) hbase
  rw [Exclusion.coversAncestor_iff_exists, ← List.append_assoc,
    Path.ancestors_spelled hall piece hp]
  simp only [List.mem_map, List.mem_reverse, List.mem_inits]
  constructor
  · rintro ⟨_, ⟨ps, hps, rfl⟩, hs, he⟩
    obtain ⟨above, rfl⟩ := (hstarts hps).1 hs
    exact ⟨above, (List.prefix_append_right_inj base).1 hps, he⟩
  · rintro ⟨above, hp, he⟩
    have hps := (List.prefix_append_right_inj base).2 hp
    exact ⟨_, ⟨_, hps, rfl⟩, (hstarts hps).2 (List.prefix_append ..), he⟩

/-- A watcher passes over exactly what lies below directories that a walk excludes. -/
theorem coversAncestor_eq_false_iff_kept (hbase : ∀ p ∈ base, Named p) {l : Location}
    (hl : ∀ x ∈ l, Disk.Plain x) (hne : l ≠ []) {text : String}
    (h : Text.decode? (pathBelow (encodeChars (spelled base)) l) = some text) :
    e.coversAncestor text (String.ofList (spelled base)) = false ↔
      Kept e (encodeChars (spelled base)) l := by
  obtain ⟨names, hnames, rfl, rfl⟩ := exists_names hbase hl h
  obtain ⟨front, piece, rfl⟩ := (List.eq_nil_or_concat names).resolve_left (by simpa using hne)
  rw [List.concat_eq_append] at hnames ⊢
  have hfront : ∀ p ∈ front, Named p := fun p hp ↦ hnames p (List.mem_append_left _ hp)
  have hlossy : ∀ {above}, above <+: front →
      Text.lossy (pathBelow (encodeChars (spelled base)) (above.map encodeChars)) =
        String.ofList (spelled (base ++ above)) := by
    intro above hp
    rw [pathBelow_spelled hbase fun p hm ↦ hfront p (hp.subset hm), ← Text.encode_ofList,
      Text.lossy, Text.decode?_eq_some_iff.2 rfl]
  rw [← Bool.not_eq_true, coversAncestor_iff hbase hfront (hnames piece (by simp))]
  constructor
  · intro hnone above hp hne'
    rw [List.map_append] at hp hne'
    have hp := (List.prefix_concat_iff.1 hp).resolve_left hne'
    rw [List.prefix_iff_eq_take.1 hp, ← List.map_take, hlossy (List.take_prefix ..)]
    exact Bool.eq_false_iff.2 fun he ↦ hnone ⟨_, List.take_prefix .., he⟩
  · rintro hk ⟨above, hp, he⟩
    have hlt : (above.map encodeChars).length < ((front ++ [piece]).map encodeChars).length := by
      simpa [Nat.lt_succ_iff] using hp.length_le
    have := hk (above.map encodeChars) ((hp.trans (List.prefix_append ..)).map _) fun heq ↦
      absurd (congrArg List.length heq) (Nat.ne_of_lt hlt)
    rw [hlossy hp, he] at this
    cases this

theorem eq_of_same (hbase : ∀ p ∈ base, Named p) {l l' : Location} (hl : ∀ x ∈ l, Disk.Plain x)
    (hl' : ∀ x ∈ l', Disk.Plain x) {text text' : String}
    (h : Text.decode? (pathBelow (encodeChars (spelled base)) l) = some text)
    (h' : Text.decode? (pathBelow (encodeChars (spelled base)) l') = some text')
    (hs : Path.same text text' = true) : text = text' := by
  obtain ⟨names, hnames, rfl, rfl⟩ := exists_names hbase hl h
  obtain ⟨names', hnames', rfl, rfl⟩ := exists_names hbase hl' h'
  rw [Path.same, beq_iff_eq, Path.components, Path.components, String.toList_ofList,
    String.toList_ofList] at hs
  have hall : ∀ {ps}, (∀ p ∈ ps, Named p) → ∀ p ∈ base ++ ps, Named p := fun hps p hp ↦
    (List.mem_append.1 hp).elim (hbase p) (hps p)
  rw [Path.eq_of_components_eq (hall hnames) (hall hnames') hs]

end StyleTypings.Watch
