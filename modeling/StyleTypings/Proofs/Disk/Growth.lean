import StyleTypings.Proofs.Disk.Following

namespace StyleTypings.Disk

open Text (Bytes)
open Node (Grown)

structure Followable (path : Bytes) : Prop where
  not_empty : ¬(path == []) = true
  no_nul : ¬path.contains 0 = true
  short : ¬path.length > longestPath

def origin (d : Disk) (path : Bytes) : Location := if isAbsolute path then [] else d.here

theorem lookup_of_followable {path : Bytes} (h : Followable path) (d : Disk) (followLast : Bool) :
    d.lookup path followLast =
      follow d.top followLast mostLinks (d.origin path) (pieces path) := by
  simp only [lookup, h.not_empty, h.no_nul, h.short, if_false, Bool.false_eq_true, origin]

theorem lookup_eq_ok_iff {d : Disk} {path : Bytes} {followLast : Bool} {dest : Destination} :
    d.lookup path followLast = .ok dest ↔
      Followable path ∧ Leads d.top followLast mostLinks (d.origin path) (pieces path) dest := by
  constructor
  · intro h
    unfold lookup at h
    split at h
    · cases h
    next hempty =>
      split at h
      · cases h
      next hnul =>
        split at h
        · cases h
        next hlong => exact ⟨⟨hempty, hnul, hlong⟩, leads_of_follow h⟩
  · rintro ⟨hf, hl⟩
    rw [lookup_of_followable hf, hl.follow_eq]

theorem bar?_of_found {d : Disk} {path : Bytes} {location : Location} {n : Node}
    (h : d.lookup path true = .ok (.found location n)) :
    d.bar? path = d.barred.lookup location := by
  simp only [bar?, h]

theorem readText_congr {d d' : Disk} {path : Bytes} (h : d'.lookup path true = d.lookup path true)
    (hbarred : d'.barred = d.barred) : d'.readText path = d.readText path := by
  simp only [readText, read, bar?, contents, node, h, hbarred]

theorem list_of_error {d : Disk} {path : Bytes} {fault : Fault}
    (h : d.lookup path true = .error fault) : d.list path = .error fault := by
  simp only [list, node, h]

theorem list_of_dir {d : Disk} {path : Bytes} {location : Location} {es : List (Name × Node)}
    (h : d.lookup path true = .ok (.found location (.dir es))) :
    d.list path =
      match d.barred.lookup location with
      | some fault => .error fault
      | none => .ok (es.map fun (name, n) ↦ (name, n.kind)) := by
  cases hbar : d.barred.lookup location <;> simp only [list, node, h, bar?_of_found h, hbar]

theorem list_eq_ok_iff {d : Disk} {path : Bytes} {entries : List (Name × Kind)} :
    d.list path = .ok entries ↔ ∃ location es,
      d.lookup path true = .ok (.found location (.dir es)) ∧ d.barred.lookup location = none ∧
        entries = es.map fun (name, n) ↦ (name, n.kind) := by
  constructor
  · intro h
    have hdir : ∃ location es, d.lookup path true = .ok (.found location (.dir es)) := by
      unfold list node at h
      split at h
      next es hnode =>
        split at hnode
        next location n hl =>
          cases hnode
          exact ⟨location, es, hl⟩
        · cases hnode
        · cases hnode
      · cases h
      · cases h
    obtain ⟨location, es, hl⟩ := hdir
    rw [list_of_dir hl] at h
    split at h
    · cases h
    next hbar => exact ⟨location, es, hl, hbar, (Except.ok.inj h).symm⟩
  · rintro ⟨location, es, hl, hbar, rfl⟩
    rw [list_of_dir hl, hbar]

theorem pieces_ne_nil (path : Bytes) : pieces path ≠ [] := by
  unfold pieces
  split
  · simp
  · split
    · simp
    · split <;> simp

theorem Leads.exists_dir {top : Node} {followLast : Bool} {links : Nat} {here : Location}
    {names : List Name} {dest : Destination} (h : Leads top followLast links here names dest)
    (hn : names ≠ []) : ∃ es, top.at? here = some (.dir es) := by
  cases h with
  | arrived => exact absurd rfl hn
  | skip hd | up hd | missing hd | dir hd | file hd | linkLast hd | link hd => exact ⟨_, hd⟩

/-- A disk on which some files have been written, and made where `new` says so. -/
structure Grows (new : Location → Prop) (d d' : Disk) : Prop where
  here_eq : d'.here = d.here
  barred_eq : d'.barred = d.barred
  top : Grown new d.top d'.top

theorem Grows.refl (new : Location → Prop) (d : Disk) : Grows new d d :=
  ⟨rfl, rfl, .refl _ _⟩

section Grows

variable {new : Location → Prop} {d d' d'' : Disk} {path : Bytes} {followLast : Bool}

theorem Grows.trans (h : Grows new d d') (h' : Grows new d' d'') : Grows new d d'' :=
  ⟨h'.here_eq.trans h.here_eq, h'.barred_eq.trans h.barred_eq, h.top.trans h'.top⟩

theorem Grows.origin_eq (h : Grows new d d') (path : Bytes) : d'.origin path = d.origin path := by
  simp only [origin, h.here_eq]

theorem Grows.lookup (h : Grows new d d') {dest : Destination}
    (hdest : ∀ location, dest = .missing location true → d'.top.at? location = none)
    (hl : d.lookup path followLast = .ok dest) :
    ∃ dest', Moved d'.top dest dest' ∧ d'.lookup path followLast = .ok dest' := by
  obtain ⟨hf, hleads⟩ := lookup_eq_ok_iff.1 hl
  obtain ⟨dest', hm, hleads'⟩ := hleads.of_grown h.top hdest
  exact ⟨dest', hm, lookup_eq_ok_iff.2 ⟨hf, h.origin_eq path ▸ hleads'⟩⟩

theorem Grows.lookup_found (h : Grows new d d') {location : Location} {n : Node}
    (hl : d.lookup path followLast = .ok (.found location n)) :
    ∃ n', d'.lookup path followLast = .ok (.found location n') := by
  obtain ⟨dest', hm, hl'⟩ := h.lookup (by simp) hl
  cases hm with
  | found => exact ⟨_, hl'⟩

theorem Grows.lookup_back (h : Grows new d d') {dest' : Destination}
    (hl : d'.lookup path followLast = .ok dest') :
    ∃ dest, Moved d'.top dest dest' ∧ d.lookup path followLast = .ok dest := by
  obtain ⟨hf, hleads'⟩ := lookup_eq_ok_iff.1 hl
  rw [h.origin_eq path] at hleads'
  obtain ⟨es', hd'⟩ := hleads'.exists_dir (pieces_ne_nil path)
  obtain ⟨es, hd⟩ := (h.top _).dir_iff.2 ⟨es', hd'⟩
  obtain ⟨dest, hm, hleads⟩ := hleads'.of_grown_back h.top (by simp [hd])
  exact ⟨dest, hm, lookup_eq_ok_iff.2 ⟨hf, hleads⟩⟩

end Grows

end StyleTypings.Disk
