import StyleTypings.Proofs.Watch.Upkeep

namespace StyleTypings.Watch

open Disk (Location Name Node)
open Text (Bytes encode)
open Walk (Chosen ending pathBelow)

variable {e : Exclusion} {d : Disk} {root : Bytes} {top : Location} {n : Node} {text : String}

def NoLinks (n : Node) : Prop := ∀ l target, n.at? l ≠ some (.link target)

theorem noLinks_file (content : Bytes) (executable : Bool) :
    NoLinks (.file content executable) := by
  intro l target h
  obtain ⟨-, hm⟩ := Node.eq_nil_of_at? rfl h
  cases hm

theorem noLinks_dir {es : List (Name × Node)} (h : ∀ entry ∈ es, NoLinks entry.2) :
    NoLinks (.dir es) := by
  intro l target hat
  rcases Node.at?_cases hat with ⟨-, hm⟩ | ⟨name, child, rest, rfl, hchild, hrest⟩
  · cases hm
  · exact h _ (Node.mem_of_lookup hchild) rest target hrest

section Ground

variable (g : Walk.Ground d root top n) (hn : NoLinks n) {above : Location} {x : Name}
  {es : List (Name × Node)} (hd : n.at? above = some (.dir es)) (hx : Disk.Plain x)
include g hn hd hx

theorem dest_eq_entryAt {followLast : Bool} {dest : Disk.Destination}
    (h : d.lookup (pathBelow root (above ++ [x])) followLast = .ok dest) :
    dest = Disk.entryAt (top ++ above) x (es.lookup x) := by
  have hopen := g.lookup_above hd hx h
  rw [Walk.pathBelow_append_name] at h
  refine Disk.eq_entryAt_of_lookup_join hopen hx (fun target hl ↦ ?_) h
  exact hn (above ++ [x]) target (by rw [Node.at?_append_name hd, hl])

theorem spot_eq_of_no_links {spot : Location}
    (h : d.spot? (pathBelow root (above ++ [x])) = some spot) : spot = top ++ above ++ [x] := by
  rcases Disk.spot?_eq_some_iff.1 h with ⟨_, _, hl⟩ | hl
  · exact (Disk.found_eq_entryAt_iff.1 (dest_eq_entryAt g hn hd hx hl)).2
  · exact (Disk.missing_eq_entryAt_iff.1 (dest_eq_entryAt g hn hd hx hl)).2.1

theorem not_dangling_of_no_links : ¬Disk.Dangling d (pathBelow root (above ++ [x])) := by
  rintro ⟨-, location, target, hl⟩
  obtain ⟨hm, -⟩ := Disk.found_eq_entryAt_iff.1 (dest_eq_entryAt g hn hd hx hl)
  exact hn (above ++ [x]) target (by rw [Node.at?_append_name hd, hm])

end Ground

/-- Typings below a directory without links are written through none. -/
theorem setting_of_no_links (g : Walk.Ground d root top n) (hk : n.kind = .dir) (hn : NoLinks n)
    (hwritable : ∀ l text, Chosen e root n l text →
      (d.spot? (encode (Module.typingsPath text))).isSome) : Setting d e root top n where
  toGround := g
  directory := hk
  writable := hwritable
  not_dangling l text hc := by
    obtain ⟨above, x, es, -, hx, hd, hpath⟩ := g.exists_entry hk hc
    rw [hpath]
    exact not_dangling_of_no_links g hn hd (Walk.plain_append_ending hx)

theorem Setting.apart_of_no_links (g : Setting d e root top n) (hn : NoLinks n) {l : Location}
    (hc : Chosen e root n l text) : Apart d e root n text := by
  have hspot : ∀ {above x es spot}, n.at? above = some (.dir es) → Disk.Plain x →
      d.spot? (pathBelow root (above ++ [x])) = some spot → spot = top ++ above ++ [x] :=
    fun hd hx ↦ spot_eq_of_no_links g.toGround hn hd hx
  obtain ⟨above, x, es, rfl, hx, hd, hpath⟩ := g.exists_entry g.directory hc
  obtain ⟨spot, htypings⟩ := Option.isSome_iff_exists.1 (g.writable _ _ hc)
  rw [hpath] at htypings
  obtain rfl := hspot hd (Walk.plain_append_ending hx) htypings
  refine ⟨fun l other hc' hshares ↦ ?_, fun l other hc' hshares ↦ ?_,
    fun other hpresent hshares ↦ ?_⟩
  · obtain ⟨above', x', es', rfl, hx', hd', hpath'⟩ := g.exists_entry g.directory hc'
    obtain ⟨spot', htypings'⟩ := Option.isSome_iff_exists.1 (g.writable _ _ hc')
    rw [Shares, htypings', Text.decode?_eq_some_iff.1 hc.text_eq] at hshares
    rw [hpath'] at htypings'
    obtain rfl := hspot hd' (Walk.plain_append_ending hx') htypings'
    obtain ⟨-, hname⟩ := List.append_inj' (hspot hd hx hshares.symm) rfl
    obtain rfl := List.singleton_inj.1 hname
    have := hc.isModule
    rw [Walk.isModule_eq_false_of_ending hx' hc.text_eq] at this
    cases this
  · obtain ⟨above', x', es', rfl, hx', hd', hpath'⟩ := g.exists_entry g.directory hc'
    rw [Shares, hpath, htypings, hpath'] at hshares
    have heq := hspot hd' (Walk.plain_append_ending hx') hshares
    obtain ⟨habove, hname⟩ := List.append_inj' heq rfl
    obtain rfl := List.append_cancel_left habove
    obtain rfl := List.append_cancel_right (List.singleton_inj.1 hname)
    exact Option.some.inj (hc'.text_eq.symm.trans hc.text_eq)
  · obtain ⟨l', hc'⟩ := hpresent
    obtain ⟨above', x', es', rfl, hx', hd', -⟩ := g.exists_entry g.directory hc'
    rw [Shares, hpath, htypings, Text.decode?_eq_some_iff.1 hc'.text_eq] at hshares
    obtain ⟨-, hname⟩ := List.append_inj' (hspot hd' hx' hshares) rfl
    obtain rfl := List.singleton_inj.1 hname
    have := hc'.isModule
    rw [Walk.isModule_eq_false_of_ending hx hc'.text_eq] at this
    cases this

end StyleTypings.Watch
