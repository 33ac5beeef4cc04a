import StyleTypings.Proofs.Walk.Chosen
import StyleTypings.Proofs.World.Upkeep

namespace StyleTypings.Walk

open Disk (Location Name Node)
open Text (Bytes)

def ending : Bytes := Text.encode Module.typingsEnding

def Beside (d : Disk) (spot : Location) : Prop :=
  ∃ above x, spot = above ++ [x ++ ending] ∧ d.top.at? (above ++ [x]) ≠ none

/-- What has become of a disk while typings were written. -/
structure Keeps (d d' : Disk) : Prop where
  wellFormed : d'.top.WellFormed
  grows : Disk.Grows (Beside d) d d'

def Opened (d : Disk) (root : Bytes) (top l : Location) : Prop :=
  ∃ es, d.lookup (pathBelow root l) true = .ok (.found (top ++ l) (.dir es))

/-- A request for the typings of an entry; they are not written through a link to nothing. -/
def Admits (d : Disk) (root : Bytes) (top : Location) (r : WriteRequest) : Prop :=
  ∃ l x text, Opened d root top l ∧ Disk.Plain x ∧ d.top.at? (top ++ l ++ [x]) ≠ none ∧
    Text.decode? (pathBelow root (l ++ [x])) = some text ∧ r.target = Module.typingsPath text ∧
      ¬Disk.Dangling d (Text.encode r.target)

theorem ending_eq : ending = [46, 100, 46, 116, 115] := by cbv

theorem plain_append_ending {x : Name} (h : Disk.Plain x) : Disk.Plain (x ++ ending) := by
  have hlength : ∀ short : Bytes, short.length ≤ 2 → x ++ ending ≠ short := by
    intro short hs he
    have := congrArg List.length he
    rw [List.length_append, ending_eq, List.length_cons] at this
    simp only [List.length_cons] at this
    omega
  refine ⟨hlength _ (by decide), hlength _ (by decide), hlength _ (by decide), ?_⟩
  rw [ending_eq]
  simpa [Disk.slash] using h.no_slash

theorem join_append (path : Bytes) {x : Name} (h : Disk.Plain x) (more : Bytes) :
    Disk.join path x ++ more = Disk.join path (x ++ more) := by
  have habs : Disk.isAbsolute (x ++ more) = Disk.isAbsolute x := by
    cases x with
    | nil => exact absurd rfl h.not_empty
    | cons b x => rfl
  unfold Disk.join
  rw [habs, Disk.isAbsolute_of_plain h]
  simp only [Bool.false_eq_true, if_false]
  split <;> simp

theorem encode_typingsPath {path : Bytes} {text : String} (h : Text.decode? path = some text) :
    Text.encode (Module.typingsPath text) = path ++ ending := by
  rw [Module.typingsPath, Text.encode_append, Text.decode?_eq_some_iff.1 h, ending]

theorem isModule_eq_false_of_ending {root : Bytes} {above : Location} {x : Name}
    (hx : Disk.Plain x) {text : String}
    (h : Text.decode? (pathBelow root (above ++ [x ++ ending])) = some text) :
    Module.isModule text = false := by
  rw [pathBelow_append_name, ← join_append _ hx] at h
  exact Module.isModule_eq_false_of_typings h

theorem Keeps.write {d d' d'' : Disk} {root : Bytes} {top : Location} {r : WriteRequest}
    {content : Bytes} (hk : Keeps d d') (hr : Admits d root top r)
    (hw : d'.write (Text.encode r.target) content = .ok d'') : Keeps d d'' := by
  obtain ⟨l, x, text, ⟨es, hopen⟩, hplain, hat, htext, htarget, hdangling⟩ := hr
  obtain ⟨spot, executable, hwrote⟩ := Disk.exists_wrote hw
  refine ⟨Disk.wellFormed_of_write hw hk.wellFormed, hk.grows.trans (hwrote.grows fun hnone ↦ ?_)⟩
  have hbytes : Text.encode r.target = Disk.join (pathBelow root l) (x ++ ending) := by
    rw [htarget, encode_typingsPath htext, pathBelow_append_name, join_append _ hplain]
  have hmissing : d'.lookup (Text.encode r.target) true = .ok (.missing spot false) := by
    rcases hwrote.way with ⟨hl, -⟩ | ⟨c, x, -, hsome⟩
    · exact hl
    · rw [hnone] at hsome
      cases hsome
  obtain ⟨dest, hmoved, hl⟩ := hk.grows.lookup_back hmissing
  cases hmoved with
  | missing =>
    rw [hbytes] at hl hdangling
    have hspot := Disk.missing_eq_of_not_dangling hopen (plain_append_ending hplain) hdangling hl
    exact ⟨top ++ l, x, hspot, hat⟩

theorem keeps_outlasts (d : Disk) (root : Bytes) (top : Location) :
    World.Outlasts (Keeps d) (Admits d root top) :=
  fun _ _ _ hk hr hw ↦ hk.write hr hw

/-- A tree that can be walked. Its names are plain, and its root may be reached through links. -/
structure Ground (d : Disk) (root : Bytes) (top : Location) (n : Node) : Prop where
  wellFormed : d.top.WellFormed
  rooted : d.lookup root true = .ok (.found top n)

section Ground

variable {d d' : Disk} {root : Bytes} {top l : Location} {n : Node} (g : Ground d root top n)
include g

theorem Ground.at?_append (l : Location) : d.top.at? (top ++ l) = n.at? l := by
  rw [Node.at?_append, (Disk.lookup_eq_ok_iff.1 g.rooted).2.at?_eq]
  rfl

theorem Ground.plain {es : List (Name × Node)} (hd : n.at? l = some (.dir es)) {name : Name}
    {m : Node} (hm : es.lookup name = some m) : Disk.Plain name := by
  rw [← g.at?_append] at hd
  exact (g.wellFormed _ es hd).2 name (Node.mem_names_iff.2 ⟨m, hm⟩)

theorem Ground.plain_of_mem {m : Node} (hm : n.at? l = some m) : ∀ x ∈ l, Disk.Plain x := by
  induction l using List.reverseRecOn generalizing m with
  | nil => simp
  | append_singleton above x ih =>
    obtain ⟨fs, hfs⟩ := Node.exists_dir_of_at?_append hm (by simp)
    rw [Node.at?_append_name hfs] at hm
    intro y hy
    rcases List.mem_append.1 hy with hy | hy
    · exact ih hfs y hy
    · exact List.mem_singleton.1 hy ▸ g.plain hfs hm

theorem Ground.pathBelow_ne_nil {m : Node} (hm : n.at? l = some m) : pathBelow root l ≠ [] :=
  Walk.pathBelow_ne_nil (Disk.ne_nil_of_lookup g.rooted) (g.plain_of_mem hm)

theorem Ground.dest_eq {es : List (Name × Node)} (hd : n.at? l = some (.dir es))
    {dest : Disk.Destination} (hl : d.lookup (pathBelow root l) true = .ok dest) :
    dest = .found (top ++ l) (.dir es) := by
  induction l using List.reverseRecOn generalizing es dest with
  | nil =>
    rw [Node.at?_nil] at hd
    cases hd
    rw [show pathBelow root [] = root from rfl, g.rooted] at hl
    cases hl
    rw [List.append_nil]
  | append_singleton above x ih =>
    obtain ⟨fs, hfs⟩ := Node.exists_dir_of_at?_append hd (by simp)
    have hx : fs.lookup x = some (.dir es) := by rw [← Node.at?_append_name hfs, hd]
    have hplain := g.plain hfs hx
    rw [pathBelow_append_name] at hl
    obtain ⟨location, gs, hopen⟩ :=
      Disk.exists_dir_of_lookup_join (g.pathBelow_ne_nil hfs) hplain hl
    cases ih hfs hopen
    rw [Disk.eq_entryAt_of_lookup_join hopen hplain (by simp [hx]) hl, hx, Disk.entryAt,
      List.append_assoc]

theorem Ground.lookup_above {above : Location} {x : Name} {es : List (Name × Node)}
    (hd : n.at? above = some (.dir es)) (hx : Disk.Plain x) {followLast : Bool}
    {dest : Disk.Destination}
    (hl : d.lookup (pathBelow root (above ++ [x])) followLast = .ok dest) :
    d.lookup (pathBelow root above) true = .ok (.found (top ++ above) (.dir es)) := by
  rw [pathBelow_append_name] at hl
  obtain ⟨location, fs, hopen⟩ := Disk.exists_dir_of_lookup_join (g.pathBelow_ne_nil hd) hx hl
  rw [hopen, g.dest_eq hd hopen]

theorem Ground.exists_entry (hk : n.kind = .dir) {e : Exclusion} {text : String}
    (hc : Chosen e root n l text) : ∃ above x es, l = above ++ [x] ∧ Disk.Plain x ∧
      n.at? above = some (.dir es) ∧
      Text.encode (Module.typingsPath text) = pathBelow root (above ++ [x ++ ending]) := by
  obtain ⟨m, hm, hkind⟩ := hc.entry
  rcases List.eq_nil_or_concat l with rfl | ⟨above, x, rfl⟩
  · rw [Node.at?_nil] at hm
    cases hm
    exact absurd hk hkind
  · rw [List.concat_eq_append] at hc hm ⊢
    have hx := g.plain_of_mem hm x (by simp)
    obtain ⟨es, hd⟩ := Node.exists_dir_of_at?_append hm (by simp)
    refine ⟨above, x, es, rfl, hx, hd, ?_⟩
    rw [encode_typingsPath hc.text_eq, pathBelow_append_name, pathBelow_append_name,
      join_append _ hx]

theorem Ground.opened (hk : Keeps d d') {es : List (Name × Node)} (hd : n.at? l = some (.dir es))
    {location : Location} {m : Node}
    (hl : d'.lookup (pathBelow root l) true = .ok (.found location m)) :
    d.lookup (pathBelow root l) true = .ok (.found (top ++ l) (.dir es)) ∧
      location = top ++ l := by
  obtain ⟨dest, hmoved, hdest⟩ := hk.grows.lookup_back hl
  cases g.dest_eq hd hdest
  cases hmoved with
  | found => exact ⟨hdest, rfl⟩

end Ground

end StyleTypings.Walk
