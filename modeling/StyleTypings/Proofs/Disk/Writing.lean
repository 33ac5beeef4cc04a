import StyleTypings.Proofs.Disk.Growth

namespace StyleTypings.Disk

open Text (Bytes)
open Node (Replaces)

def fileAt? (d : Disk) (path : Bytes) : Option Location :=
  match d.lookup path true with
  | .ok (.found location (.file _ _)) => some location
  | _ => none

theorem fileAt?_eq_some_iff {d : Disk} {path : Bytes} {location : Location} :
    d.fileAt? path = some location ↔ ∃ content executable,
      d.lookup path true = .ok (.found location (.file content executable)) := by
  unfold fileAt?
  split <;> simp_all

theorem contents_eq_of_fileAt? {d : Disk} {path content : Bytes} {location : Location}
    (h : d.fileAt? path = some location) :
    d.contents path = .ok content ↔
      ∃ executable, d.top.at? location = some (.file content executable) := by
  obtain ⟨c, x, hl⟩ := fileAt?_eq_some_iff.1 h
  have hat := (lookup_eq_ok_iff.1 hl).2.at?_eq
  simp only [contents, node, hl, hat, Except.ok.injEq, Option.some.injEq, Node.file.injEq]
  constructor
  · rintro rfl
    exact ⟨x, rfl, rfl⟩
  · rintro ⟨_, rfl, _⟩
    rfl

structure Wrote (d d' : Disk) (path content : Bytes) (spot : Location) (executable : Bool) :
    Prop where
  here_eq : d'.here = d.here
  barred_eq : d'.barred = d.barred
  replaces : Replaces d.top d'.top spot (.file content executable)
  way : d.lookup path true = .ok (.missing spot false) ∧ d.top.at? spot = none ∨
    ∃ c x, d.lookup path true = .ok (.found spot (.file c x)) ∧ d.top.at? spot = some (.file c x)

theorem replaces_file {n : Node} {spot : Location} {c content : Bytes} {executable : Bool}
    (h : n.at? spot = some (.file c executable)) :
    Replaces n (n.put spot (.file content executable)) spot (.file content executable) := by
  rcases List.eq_nil_or_concat spot with rfl | ⟨parent, name, rfl⟩
  · obtain rfl : n = .file c executable := by simpa using h
    refine ⟨rfl, fun other ho ↦ ?_⟩
    obtain ⟨name, rest, rfl⟩ := List.exists_cons_of_ne_nil ho
    exact .none
  · rw [List.concat_eq_append] at h ⊢
    obtain ⟨es, hp⟩ := Node.exists_dir_of_at?_append h (by simp)
    refine Node.replaces_put (by simp) hp fun fs hl ↦ ?_
    rw [Node.at?_append_name hp, hl] at h
    cases h

theorem exists_wrote {d d' : Disk} {path content : Bytes} (h : d.write path content = .ok d') :
    ∃ spot executable, Wrote d d' path content spot executable := by
  unfold write at h
  split at h
  next location c x hl =>
    cases h
    have hat := (lookup_eq_ok_iff.1 hl).2.at?_eq
    exact ⟨location, x, rfl, rfl, replaces_file hat, .inr ⟨c, x, hl, hat⟩⟩
  next => cases h
  next => cases h
  next location hl =>
    cases h
    obtain ⟨parent, name, es, rfl, hp, hnone⟩ := (lookup_eq_ok_iff.1 hl).2.missing_parent
    have hat : d.top.at? (parent ++ [name]) = none := by rw [Node.at?_append_name hp, hnone]
    exact ⟨_, false, rfl, rfl, Node.replaces_put (by simp) hp (by simp [hnone]), .inl ⟨hl, hat⟩⟩
  next => cases h

/-- What can come of a write. The file is opened and emptied in front of all else, so that a write
that fails behind that leaves anything there. -/
inductive Outcome where
  | written
  | failed (fault : Fault) (left? : Option Bytes)
deriving DecidableEq, Repr

namespace Outcome

def left? (content : Bytes) : Outcome → Option Bytes
  | .written => some content
  | .failed _ left? => left?

def fault? : Outcome → Option Fault
  | .written => none
  | .failed fault _ => some fault

end Outcome

/-- The disk behind a write that leaves something in its file, or does not open it. -/
def leave (d : Disk) (path : Bytes) : Option Bytes → Except Fault Disk
  | none => .ok d
  | some left => d.write path left

section Wrote

variable {d d' : Disk} {path content : Bytes} {spot : Location} {executable : Bool}
  (w : Wrote d d' path content spot executable)
include w

theorem Wrote.grows {new : Location → Prop} (hnew : d.top.at? spot = none → new spot) :
    Grows new d d' := by
  refine ⟨w.here_eq, w.barred_eq, w.replaces.grown ?_⟩
  rcases w.way with ⟨-, hat⟩ | ⟨c, x, -, hat⟩
  · exact .inl ⟨hat, hnew hat⟩
  · exact .inr ⟨c, x, hat⟩

theorem Wrote.fileAt?_self : d'.fileAt? path = some spot := by
  have hg : Grows (fun _ ↦ True) d d' := w.grows fun _ ↦ trivial
  have hfound : ∃ n, d'.lookup path true = .ok (.found spot n) := by
    rcases w.way with ⟨hl, -⟩ | ⟨c, x, hl, -⟩
    · obtain ⟨dest', hm, hl'⟩ := hg.lookup (by simp) hl
      cases hm with
      | made => exact ⟨_, hl'⟩
      | missing hnone =>
        rw [w.replaces.here] at hnone
        cases hnone
    · exact hg.lookup_found hl
  obtain ⟨n, hn⟩ := hfound
  have hat := (lookup_eq_ok_iff.1 hn).2.at?_eq
  rw [w.replaces.here] at hat
  cases hat
  exact fileAt?_eq_some_iff.2 ⟨_, _, hn⟩

theorem Wrote.fileAt?_other {other : Bytes} {location : Location}
    (h : d.fileAt? other = some location) : d'.fileAt? other = some location := by
  have hg : Grows (fun _ ↦ True) d d' := w.grows fun _ ↦ trivial
  obtain ⟨c, x, hl⟩ := fileAt?_eq_some_iff.1 h
  obtain ⟨n', hl'⟩ := hg.lookup_found hl
  have hgrew := hg.top location
  rw [(lookup_eq_ok_iff.1 hl).2.at?_eq, (lookup_eq_ok_iff.1 hl').2.at?_eq] at hgrew
  cases hgrew with
  | some ha =>
    cases ha with
    | file => exact fileAt?_eq_some_iff.2 ⟨_, _, hl'⟩

theorem Wrote.contents_same {other : Bytes} (h : d'.fileAt? other = some spot) :
    d'.contents other = .ok content :=
  (contents_eq_of_fileAt? h).2 ⟨executable, w.replaces.here⟩

theorem Wrote.contents_other {other c : Bytes} {location : Location}
    (h : d.fileAt? other = some location) (hne : location ≠ spot)
    (hc : d.contents other = .ok c) : d'.contents other = .ok c := by
  obtain ⟨x, hat⟩ := (contents_eq_of_fileAt? h).1 hc
  refine (contents_eq_of_fileAt? (w.fileAt?_other h)).2 ⟨x, ?_⟩
  have hrel := w.replaces.elsewhere location hne
  rw [hat] at hrel
  generalize d'.top.at? location = found at hrel
  cases hrel with
  | some ha => rw [ha.eq_of_not_dir (by simp [Node.kind])]

end Wrote

end StyleTypings.Disk
