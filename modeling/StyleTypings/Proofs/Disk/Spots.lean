import StyleTypings.Proofs.Disk.Writing
import StyleTypings.Proofs.Text.Encoding

namespace StyleTypings.Disk

open Text (Bytes decode?)

variable {d d' : Disk} {path : Bytes} {spot : Location}

def spot? (d : Disk) (path : Bytes) : Option Location :=
  match d.lookup path true with
  | .ok (.found location (.file _ _)) => some location
  | .ok (.missing location false) => some location
  | _ => none

def textAt? (d : Disk) (location : Location) : Option String :=
  match d.top.at? location with
  | some (.file content _) => decode? content
  | _ => none

theorem spot?_eq_some_iff : d.spot? path = some spot ↔
    (∃ content executable, d.lookup path true = .ok (.found spot (.file content executable))) ∨
      d.lookup path true = .ok (.missing spot false) := by
  unfold spot?
  split <;> simp_all

def text? (d : Disk) (path : Bytes) : Option String := (d.spot? path).bind d.textAt?

def seenAt? (d : Disk) (location : Location) : Option String :=
  match d.barred.lookup location with
  | some _ => none
  | none => d.textAt? location

def seen? (d : Disk) (path : Bytes) : Option String := (d.spot? path).bind d.seenAt?

theorem contents_eq_ok_iff {content : Bytes} : d.contents path = .ok content ↔
    ∃ location executable,
      d.lookup path true = .ok (.found location (.file content executable)) := by
  constructor
  · intro h
    unfold contents node at h
    split at h
    next c x hnode =>
      cases h
      split at hnode
      next location n hl =>
        cases hnode
        exact ⟨location, x, hl⟩
      · cases hnode
      · cases hnode
    · cases h
    · cases h
  · rintro ⟨location, x, hl⟩
    simp only [contents, node, hl]

theorem lookup_of_textAt? {text : String} (hspot : d.spot? path = some spot)
    (htext : d.textAt? spot = some text) :
    ∃ executable, d.lookup path true = .ok (.found spot (.file (Text.encode text) executable)) := by
  unfold textAt? at htext
  rcases spot?_eq_some_iff.1 hspot with ⟨c, x, hl⟩ | hl
  · rw [(lookup_eq_ok_iff.1 hl).2.at?_eq] at htext
    exact ⟨x, (Text.decode?_eq_some_iff.1 htext).symm ▸ hl⟩
  · obtain ⟨parent, name, es, rfl, hp, hnone⟩ := (lookup_eq_ok_iff.1 hl).2.missing_parent
    rw [Node.at?_append_name hp, hnone] at htext
    cases htext

theorem spot_of_lookup {text : String} {executable : Bool}
    (h : d.lookup path true = .ok (.found spot (.file (Text.encode text) executable))) :
    d.spot? path = some spot ∧ d.textAt? spot = some text := by
  refine ⟨spot?_eq_some_iff.2 (.inl ⟨_, _, h⟩), ?_⟩
  rw [textAt?, (lookup_eq_ok_iff.1 h).2.at?_eq]
  exact Text.decode?_eq_some_iff.2 rfl

theorem text?_eq_some_iff {text : String} :
    d.text? path = some text ↔ d.contents path = .ok (Text.encode text) := by
  rw [text?, Option.bind_eq_some_iff, contents_eq_ok_iff]
  constructor
  · rintro ⟨spot, hspot, htext⟩
    exact ⟨spot, lookup_of_textAt? hspot htext⟩
  · rintro ⟨spot, executable, hl⟩
    exact ⟨spot, spot_of_lookup hl⟩

theorem readText_eq_ok_iff {text : String} :
    d.readText path = .ok text ↔
      d.bar? path = none ∧ d.contents path = .ok (Text.encode text) := by
  unfold readText read
  constructor
  · intro h
    split at h
    next content hread =>
      split at h
      next htext =>
        cases h
        split at hread
        · cases hread
        next hbar => exact ⟨hbar, (Text.decode?_eq_some_iff.1 htext).symm ▸ hread⟩
      · cases h
    · cases h
  · rintro ⟨hbar, hcontents⟩
    simp only [hbar, hcontents, Text.decode?_eq_some_iff.2 rfl]

theorem seenAt?_eq_some_iff {text : String} :
    d.seenAt? spot = some text ↔ d.barred.lookup spot = none ∧ d.textAt? spot = some text := by
  unfold seenAt?
  cases d.barred.lookup spot <;> simp

theorem seen?_eq_some_iff {text : String} :
    d.seen? path = some text ↔ d.readText path = .ok text := by
  rw [seen?, Option.bind_eq_some_iff, readText_eq_ok_iff, contents_eq_ok_iff]
  constructor
  · rintro ⟨spot, hspot, hseen⟩
    obtain ⟨hbar, htext⟩ := seenAt?_eq_some_iff.1 hseen
    obtain ⟨x, hl⟩ := lookup_of_textAt? hspot htext
    exact ⟨(bar?_of_found hl).trans hbar, spot, x, hl⟩
  · rintro ⟨hbar, spot, x, hl⟩
    obtain ⟨hspot, htext⟩ := spot_of_lookup hl
    exact ⟨spot, hspot, seenAt?_eq_some_iff.2 ⟨bar?_of_found hl ▸ hbar, htext⟩⟩

theorem exists_spot_of_readText {text : String} (h : d.readText path = .ok text) :
    ∃ spot, d.spot? path = some spot := by
  obtain ⟨spot, hspot, -⟩ := Option.bind_eq_some_iff.1 (seen?_eq_some_iff.2 h)
  exact ⟨spot, hspot⟩

theorem spot?_eq_of_grows {new : Location → Prop} (h : Grows new d d') (path : Bytes) :
    d'.spot? path = d.spot? path := by
  ext spot
  rw [spot?_eq_some_iff, spot?_eq_some_iff]
  have hgrew := h.top spot
  constructor
  · rintro (⟨c, x, hl⟩ | hl)
    · obtain ⟨dest, hm, hl'⟩ := h.lookup_back hl
      rw [(lookup_eq_ok_iff.1 hl).2.at?_eq] at hgrew
      cases hm with
      | found =>
        rw [(lookup_eq_ok_iff.1 hl').2.at?_eq] at hgrew
        cases hgrew with
        | some ha =>
          cases ha with
          | file => exact .inl ⟨_, _, hl'⟩
      | made => exact .inr hl'
    · obtain ⟨dest, hm, hl'⟩ := h.lookup_back hl
      cases hm with
      | missing => exact .inr hl'
  · rintro (⟨c, x, hl⟩ | hl)
    · obtain ⟨n', hl'⟩ := h.lookup_found hl
      rw [(lookup_eq_ok_iff.1 hl).2.at?_eq, (lookup_eq_ok_iff.1 hl').2.at?_eq] at hgrew
      cases hgrew with
      | some ha =>
        cases ha with
        | file => exact .inl ⟨_, _, hl'⟩
    · obtain ⟨dest, hm, hl'⟩ := h.lookup (by simp) hl
      cases hm with
      | made hn =>
        obtain ⟨parent, name, es, rfl, hp, hnone⟩ := (lookup_eq_ok_iff.1 hl).2.missing_parent
        rw [Node.at?_append_name hp, hnone, hn] at hgrew
        cases hgrew with
        | made => exact .inl ⟨_, _, hl'⟩
      | missing => exact .inr hl'

/-- A disk after a file was written at a place. -/
structure Stores (d d' : Disk) (spot : Location) (content : Bytes) : Prop where
  spot?_eq (path : Bytes) : d'.spot? path = d.spot? path
  barred_eq : d'.barred = d.barred
  here : d'.textAt? spot = decode? content
  elsewhere (other : Location) : other ≠ spot → d'.textAt? other = d.textAt? other

section Stores

variable {content : Bytes}

theorem Stores.text?_self (h : Stores d d' spot content) (hspot : d.spot? path = some spot) :
    d'.text? path = decode? content := by
  rw [text?, h.spot?_eq, hspot]
  exact h.here

theorem Stores.text?_other (h : Stores d d' spot content) (hspot : d.spot? path ≠ some spot) :
    d'.text? path = d.text? path := by
  rw [text?, text?, h.spot?_eq]
  cases hs : d.spot? path with
  | none => rfl
  | some other => exact h.elsewhere other fun he ↦ hspot (he ▸ hs)

theorem Stores.seen?_other (h : Stores d d' spot content) (hspot : d.spot? path ≠ some spot) :
    d'.seen? path = d.seen? path := by
  rw [seen?, seen?, h.spot?_eq]
  cases hs : d.spot? path with
  | none => rfl
  | some other =>
    have htext := h.elsewhere other fun he ↦ hspot (he ▸ hs)
    simp only [Option.bind_some, seenAt?, h.barred_eq, htext]

theorem exists_write (h : d.spot? path = some spot) (content : Bytes) :
    ∃ d', d.write path content = .ok d' := by
  rcases spot?_eq_some_iff.1 h with ⟨c, x, hl⟩ | hl
  · exact ⟨_, by rw [write, hl]⟩
  · exact ⟨_, by rw [write, hl]⟩

theorem write_eq_self {executable : Bool} (h : d.spot? path = some spot)
    (hat : d.top.at? spot = some (.file content executable)) : d.write path content = .ok d := by
  rcases spot?_eq_some_iff.1 h with ⟨c, x, hl⟩ | hl
  · have hfile := (lookup_eq_ok_iff.1 hl).2.at?_eq
    rw [hat] at hfile
    cases hfile
    simp only [write, hl, Node.put_eq_self hat]
  · obtain ⟨parent, name, es, rfl, hp, hnone⟩ := (lookup_eq_ok_iff.1 hl).2.missing_parent
    rw [Node.at?_append_name hp, hnone] at hat
    cases hat

theorem Wrote.spot?_eq {executable : Bool} (hw : Wrote d d' path content spot executable) :
    d.spot? path = some spot := by
  rcases hw.way with ⟨hl, -⟩ | ⟨c, x, hl, -⟩
  · exact spot?_eq_some_iff.2 (.inr hl)
  · exact spot?_eq_some_iff.2 (.inl ⟨c, x, hl⟩)

theorem exists_stores (h : d.write path content = .ok d') :
    ∃ spot, d.spot? path = some spot ∧ Stores d d' spot content := by
  obtain ⟨spot, executable, hw⟩ := exists_wrote h
  have hgrows : Grows (fun _ ↦ True) d d' := hw.grows fun _ ↦ trivial
  refine ⟨spot, hw.spot?_eq, spot?_eq_of_grows hgrows, hw.barred_eq, ?_, fun other hne ↦ ?_⟩
  · rw [textAt?, hw.replaces.here]
  · have hrel := hw.replaces.elsewhere other hne
    unfold textAt?
    generalize d.top.at? other = a at hrel
    generalize d'.top.at? other = b at hrel
    cases hrel with
    | none => rfl
    | @some m m' ha =>
      cases m with
      | file | link => rw [ha.eq_of_not_dir (by simp [Node.kind])]
      | dir => cases m' <;> simp_all [Node.Alike]

end Stores

end StyleTypings.Disk
