import StyleTypings.Proofs.Disk.Locations
import StyleTypings.Proofs.Walk.Errand

namespace StyleTypings.Walk

open Disk (Location Name Node Grows)
open Text (Bytes encode)
open World (Outlasts Tame)

def typingsAt (l : Location) : Location :=
  match l.getLast? with
  | some x => l.dropLast ++ [x ++ ending]
  | none => []

def linked (d : Disk) (root : Bytes) (top : Location) : List Location :=
  d.top.locations.filterMap fun l ↦ d.spot? (pathBelow root (l.drop top.length))

def isDirAt (d : Disk) (l : Location) : Bool := (d.top.at? l).any Node.isDir

def dirs (d : Disk) : List Location := d.top.locations.filter (isDirAt d)

/-- The places that can hold something while a walk goes on: those that do so in the beginning,
those that their paths lead to, and those where the typings of either go. -/
def room (d : Disk) (root : Bytes) (top : Location) : List Location :=
  d.top.locations ++ linked d root top ++
    (d.top.locations.filter (!isDirAt d ·) ++ linked d root top).map typingsAt

def Fits (d : Disk) (root : Bytes) (top : Location) (r : WriteRequest) : Prop :=
  ∀ spot, d.spot? (encode r.target) = some spot → spot ∈ room d root top

/-- A disk on which files were made at those places only. -/
structure Filled (d : Disk) (root : Bytes) (top : Location) (d' : Disk) : Prop where
  wellFormed : d'.top.WellFormed
  grows : Grows (· ∈ room d root top) d d'

variable {t : Toolchain} {e : Exclusion} {d d' : Disk} {root : Bytes} {top : Location} {n : Node}

theorem typingsAt_append (above : Location) (x : Name) :
    typingsAt (above ++ [x]) = above ++ [x ++ ending] := by
  simp [typingsAt]

theorem isDirAt_iff {l : Location} : isDirAt d l = true ↔ ∃ es, d.top.at? l = some (.dir es) := by
  unfold isDirAt
  cases d.top.at? l with
  | none => simp
  | some m => cases m <;> simp [Node.isDir, Node.kind]

theorem length_room_add_length_dirs (d : Disk) (root : Bytes) (top : Location) :
    (room d root top).length + (dirs d).length ≤ 4 * d.top.size := by
  have hlinked : (linked d root top).length ≤ d.top.locations.length :=
    List.length_filterMap_le ..
  have hsplit := List.length_eq_length_filter_add (l := d.top.locations) (isDirAt d)
  have hsize := d.top.length_locations
  simp only [room, dirs, List.length_append, List.length_map]
  omega

theorem filled_refl (hwf : d.top.WellFormed) : Filled d root top d := ⟨hwf, .refl _ _⟩

theorem filled_outlasts : Outlasts (Filled d root top) (Fits d root top) := by
  rintro d₁ r d₂ ⟨hwf, hgrows⟩ hfits hw
  obtain ⟨spot, executable, hwrote⟩ := Disk.exists_wrote hw
  have hspot : d.spot? (encode r.target) = some spot := by
    rw [← Disk.spot?_eq_of_grows hgrows, hwrote.spot?_eq]
  exact ⟨Disk.wellFormed_of_write hw hwf, hgrows.trans (hwrote.grows fun _ ↦ hfits spot hspot)⟩

theorem Filled.mem_room (h : Filled d root top d') {l : Location} (hl : d'.top.at? l ≠ none) :
    l ∈ room d root top := by
  obtain ⟨m', hm'⟩ := Option.ne_none_iff_exists'.1 hl
  have hgrew := h.grows.top l
  rw [hm'] at hgrew
  generalize hm : d.top.at? l = before at hgrew
  cases hgrew with
  | some =>
    exact List.mem_append_left _ (List.mem_append_left _ (Node.mem_locations hm))
  | made hroom => exact hroom

theorem stylesheet?_join_ending {path : Bytes} (hpath : path ≠ []) {x : Name}
    (hx : Disk.Plain (x ++ ending)) : stylesheet? (Disk.join path (x ++ ending)) = none := by
  obtain ⟨front, hfront⟩ : ∃ front, Disk.join path (x ++ ending) = front ++ ending := by
    rcases Disk.join_cases hpath hx with ⟨front, -, hjoin⟩ | hjoin
    · exact ⟨front ++ Disk.slash :: x, by simp [hjoin]⟩
    · exact ⟨path ++ Disk.slash :: x, by simp [hjoin]⟩
  refine Option.eq_none_iff_forall_ne_some.2 fun text htext ↦ ?_
  obtain ⟨hdecode, hmodule⟩ := stylesheet?_eq_some_iff.1 htext
  rw [hfront] at hdecode
  rw [Module.isModule_eq_false_of_typings hdecode] at hmodule
  cases hmodule

theorem typingsAt_mem_room {l : Location} {path : Bytes} {x : Name} (hpath : path ≠ [])
    (hx : Disk.Plain x) (hdir : ¬∃ es, d.top.at? (l ++ [x]) = some (.dir es))
    (hroom : l ++ [x] ∈ room d root top) (hsheet : stylesheet? (Disk.join path x) ≠ none) :
    typingsAt (l ++ [x]) ∈ room d root top := by
  refine List.mem_append_right _ (List.mem_map_of_mem ?_)
  rcases List.mem_append.1 hroom with hroom | hroom
  · rcases List.mem_append.1 hroom with hroom | hroom
    · refine List.mem_append_left _ (List.mem_filter.2 ⟨hroom, ?_⟩)
      rw [Bool.not_eq_true', Bool.eq_false_iff, ne_eq, isDirAt_iff]
      exact hdir
    · exact List.mem_append_right _ hroom
  · obtain ⟨y, -, hy⟩ := List.mem_map.1 hroom
    refine absurd ?_ hsheet
    rcases List.eq_nil_or_concat y with rfl | ⟨above, z, rfl⟩
    · simp [typingsAt] at hy
    · rw [List.concat_eq_append, typingsAt_append] at hy
      obtain ⟨-, hname⟩ := List.append_inj' hy rfl
      obtain rfl := List.singleton_inj.1 hname
      exact stylesheet?_join_ending hpath hx

/-- The typings of a stylesheet that the walk comes to are written to one of the places. -/
theorem spot_mem_room {above : Location} {x : Name} (hopen : Opened d root top above)
    (hx : Disk.Plain x) (hdir : ¬∃ es, d.top.at? (top ++ (above ++ [x])) = some (.dir es))
    (hroom : top ++ (above ++ [x]) ∈ room d root top) {text : String}
    (hsheet : stylesheet? (pathBelow root (above ++ [x])) = some text) {spot : Location}
    (hspot : d.spot? (encode (Module.typingsPath text)) = some spot) :
    spot ∈ room d root top := by
  obtain ⟨es, hopen⟩ := hopen
  have hat := (Disk.lookup_eq_ok_iff.1 hopen).2.at?_eq
  rw [encode_typingsPath (stylesheet?_eq_some_iff.1 hsheet).1, pathBelow_append_name,
    join_append _ hx] at hspot
  by_cases hlink : ∃ target, es.lookup (x ++ ending) = some (.link target)
  · obtain ⟨target, hlink⟩ := hlink
    refine List.mem_append_left _ (List.mem_append_right _ (List.mem_filterMap.2
      ⟨top ++ (above ++ [x ++ ending]), ?_, ?_⟩))
    · rw [← List.append_assoc]
      exact Node.mem_locations (by rw [Node.at?_append_name hat, hlink])
    · rw [List.drop_left, pathBelow_append_name, hspot]
  · rw [Disk.eq_of_spot?_join hopen (plain_append_ending hx) (fun target hl ↦ hlink ⟨target, hl⟩)
      hspot, ← typingsAt_append]
    rw [← List.append_assoc] at hdir hroom
    rw [pathBelow_append_name] at hsheet
    exact typingsAt_mem_room (Disk.ne_nil_of_lookup hopen) hx hdir hroom (by simp [hsheet])

namespace Errand

def Visits (top : Location) (x : Errand) (l : Location) : Prop :=
  top ++ x.location <+: l ∧ (x.kind? = none → l ≠ top ++ x.location)

def Lists (top : Location) (x : Errand) (l : Location) : Prop := top ++ x.location <+: l

def Apart (x y : Errand) : Prop := ¬x.location <+: y.location ∧ ¬y.location <+: x.location

open Classical in
noncomputable def left (d : Disk) (root : Bytes) (top : Location) (xs : List Errand) : Nat :=
  (room d root top).countP (∃ x ∈ xs, x.Visits top ·) + (dirs d).countP (∃ x ∈ xs, x.Lists top ·)

variable {x : Errand} {xs later : List Errand}

theorem countP_lt {α : Type} {p q : α → Bool} {l : List α} (h : ∀ a ∈ l, q a = true → p a = true)
    {a : α} (ha : a ∈ l) (hp : p a = true) (hq : q a = false) : l.countP q < l.countP p := by
  induction l with
  | nil => cases ha
  | cons b l ih =>
    have hle := List.countP_mono_left fun a ha ↦ h a (List.mem_cons_of_mem _ ha)
    rw [List.countP_cons, List.countP_cons]
    rcases List.mem_cons.1 ha with rfl | ha
    · simp only [hp, hq, if_true, Bool.false_eq_true, if_false]
      omega
    · have hlt := ih (fun a ha ↦ h a (List.mem_cons_of_mem _ ha)) ha
      have hb := h b (List.mem_cons_self ..)
      cases hqb : q b <;> cases hpb : p b <;> simp_all

theorem Splits.location_prefix (h : x.Splits xs) {y : Errand} (hy : y ∈ xs) :
    x.location <+: y.location := by
  cases h with
  | done => cases hy
  | list l =>
    obtain rfl := List.mem_singleton.1 hy
    exact List.prefix_rfl
  | entries l =>
    obtain ⟨⟨name, kind⟩, -, rfl⟩ := List.mem_map.1 hy
    exact List.prefix_append ..

theorem Splits.visits (h : x.Splits xs) {y : Errand} (hy : y ∈ xs) {l : Location}
    (hl : y.Visits top l) : top ++ x.location <+: l ∧ l ≠ top ++ x.location := by
  refine ⟨((List.prefix_append_right_inj top).2 (h.location_prefix hy)).trans hl.1, ?_⟩
  cases h with
  | done => cases hy
  | list =>
    obtain rfl := List.mem_singleton.1 hy
    exact hl.2 rfl
  | entries l =>
    obtain ⟨⟨name, kind⟩, -, rfl⟩ := List.mem_map.1 hy
    rintro rfl
    have := hl.1.length_le
    simp at this

theorem Splits.lists (h : x.Splits xs) {y : Errand} (hy : y ∈ xs) {l : Location}
    (hl : y.Lists top l) :
    top ++ x.location <+: l ∧ (x.kind? = none → l ≠ top ++ x.location) := by
  refine ⟨((List.prefix_append_right_inj top).2 (h.location_prefix hy)).trans hl, ?_⟩
  cases h with
  | done | list => simp
  | entries l =>
    obtain ⟨⟨name, kind⟩, -, rfl⟩ := List.mem_map.1 hy
    rintro - rfl
    have := hl.length_le
    simp at this

theorem Splits.apart (h : x.Splits xs) (hapart : (x :: later).Pairwise Apart) :
    (xs ++ later).Pairwise Apart := by
  rw [List.pairwise_cons] at hapart
  refine List.pairwise_append.2 ⟨?_, hapart.2, fun y hy z hz ↦ ⟨fun hp ↦ ?_, fun hp ↦ ?_⟩⟩
  · cases h with
    | done => exact .nil
    | list => exact List.pairwise_singleton ..
    | entries l hnodup =>
      refine List.pairwise_map.2 ((List.pairwise_map.1 hnodup).imp fun {a b} hne ↦ ?_)
      simp [Apart, hne, Ne.symm hne]
  · exact (hapart.1 z hz).1 ((h.location_prefix hy).trans hp)
  · cases h with
    | done => cases hy
    | list =>
      obtain rfl := List.mem_singleton.1 hy
      exact (hapart.1 z hz).2 hp
    | entries l =>
      obtain ⟨⟨name, kind⟩, -, rfl⟩ := List.mem_map.1 hy
      rcases List.prefix_concat_iff.1 hp with heq | hp
      · exact (hapart.1 z hz).1 (heq ▸ List.prefix_append ..)
      · exact (hapart.1 z hz).2 hp

open Classical in
theorem Splits.left_lt (h : x.Splits xs) (hapart : (x :: later).Pairwise Apart)
    (hroom : top ++ x.location ∈ room d root top)
    (hdir : x.kind? = none → top ++ x.location ∈ dirs d) :
    left d root top (xs ++ later) < left d root top (x :: later) := by
  have hother {z : Errand} (hz : z ∈ later) : ¬top ++ z.location <+: top ++ x.location :=
    fun hp ↦ (List.rel_of_pairwise_cons hapart hz).2 ((List.prefix_append_right_inj top).1 hp)
  have hvisits (l : Location) (hl : ∃ y ∈ xs ++ later, y.Visits top l) :
      ∃ y ∈ x :: later, y.Visits top l := by
    obtain ⟨y, hy, hl⟩ := hl
    rcases List.mem_append.1 hy with hy | hy
    · exact ⟨x, List.mem_cons_self .., (h.visits hy hl).1, fun _ ↦ (h.visits hy hl).2⟩
    · exact ⟨y, List.mem_cons_of_mem _ hy, hl⟩
  have hlists (l : Location) (hl : ∃ y ∈ xs ++ later, y.Lists top l) :
      ∃ y ∈ x :: later, y.Lists top l := by
    obtain ⟨y, hy, hl⟩ := hl
    rcases List.mem_append.1 hy with hy | hy
    · exact ⟨x, List.mem_cons_self .., (h.lists hy hl).1⟩
    · exact ⟨y, List.mem_cons_of_mem _ hy, hl⟩
  unfold left
  cases hkind : x.kind? with
  | some kind =>
    refine Nat.add_lt_add_of_lt_of_le (countP_lt (by simpa using fun l _ ↦ hvisits l) hroom ?_ ?_)
      (List.countP_mono_left (by simpa using fun l _ ↦ hlists l))
    · exact decide_eq_true ⟨x, List.mem_cons_self .., List.prefix_rfl, by simp [hkind]⟩
    · refine decide_eq_false fun ⟨y, hy, hl⟩ ↦ ?_
      rcases List.mem_append.1 hy with hy | hy
      · exact (h.visits hy hl).2 rfl
      · exact hother hy hl.1
  | none =>
    refine Nat.add_lt_add_of_le_of_lt (List.countP_mono_left (by simpa using fun l _ ↦ hvisits l))
      (countP_lt (by simpa using fun l _ ↦ hlists l) (hdir hkind) ?_ ?_)
    · exact decide_eq_true ⟨x, List.mem_cons_self .., List.prefix_rfl⟩
    · refine decide_eq_false fun ⟨y, hy, hl⟩ ↦ ?_
      rcases List.mem_append.1 hy with hy | hy
      · exact (h.lists hy hl).2 hkind rfl
      · exact hother hy hl

end Errand

/-- What is pending while a walk goes on. -/
structure Outstanding (e : Exclusion) (d : Disk) (root : Bytes) (top : Location)
    (xs : List Errand) : Prop where
  apart : xs.Pairwise Errand.Apart
  sent (x : Errand) : x ∈ xs → x.Sent e d root top
  mem_room (x : Errand) : x ∈ xs → top ++ x.location ∈ room d root top

/-- Enough tasks may be done: more of them make no difference. -/
def Enough (t : Toolchain) (e : Exclusion) (fuel : Nat) (p : Progress) (w : World) : Prop :=
  ∀ more, (run t e (fuel + more) p).run w = (run t e fuel p).run w

variable {x : Errand} {xs later : List Errand} {fuel : Nat} {w : World}

theorem Errand.Sent.dir_mem (h : x.Sent e d root top) (hkind : x.kind? = none) :
    top ++ x.location ∈ dirs d := by
  cases h with
  | visit => cases hkind
  | list _ _ hd => exact List.mem_filter.2 ⟨Node.mem_locations hd, isDirAt_iff.2 ⟨_, hd⟩⟩

theorem Errand.exists_sheet {gain : Gain} (hgain : (x.task root).gain t e d' = .ok gain)
    {r : WriteRequest} (hr : gain.request? = some r) :
    ∃ kind text, x.kind? = some kind ∧ kind ≠ .dir ∧
      stylesheet? (pathBelow root x.location) = some text ∧
      r.target = Module.typingsPath text := by
  obtain ⟨l, kind?⟩ := x
  cases kind? with
  | none =>
    simp only [task, Task.gain] at hgain
    split at hgain <;> cases hgain
    cases hr
  | some kind =>
    cases kind with
    | dir =>
      simp only [task, Task.gain] at hgain
      split at hgain <;> cases hgain <;> cases hr
    | file | link =>
      simp only [task, Task.gain] at hgain
      split at hgain
      · cases hgain
        cases hr
      next text hsheet =>
        obtain ⟨content, names, -, -, rfl⟩ := sheetGain_eq_ok_iff.1 hgain
        cases hr
        exact ⟨_, text, rfl, by simp, hsheet, rfl⟩

theorem Errand.Sent.fits (h : x.Sent e d root top) (htop : ∃ es, d.top.at? top = some (.dir es))
    (hroom : top ++ x.location ∈ room d root top)
    {gain : Gain} (hgain : (x.task root).gain t e d' = .ok gain) {r : WriteRequest}
    (hr : gain.request? = some r) : Fits d root top r := by
  intro spot hspot
  obtain ⟨kind, text, hkind, hne, hsheet, htarget⟩ := Errand.exists_sheet hgain hr
  rw [htarget] at hspot
  cases h with
  | list => cases hkind
  | visit hl _ hdir =>
    cases hkind
    cases hl with
    | root => exact absurd (hdir.2 (by simpa using htop)) hne
    | entry hopen hx => exact spot_mem_room hopen hx (fun hd ↦ hne (hdir.2 hd)) hroom hsheet hspot

theorem Outstanding.next (h : Outstanding e d root top (x :: later))
    (hfilled : Filled d root top d')
    (hbrings : x.Brings e d root top d' xs) : Outstanding e d root top (xs ++ later) where
  apart := hbrings.splits.apart h.apart
  sent y hy := (List.mem_append.1 hy).elim (hbrings.sent y) fun hy ↦
    h.sent y (List.mem_cons_of_mem _ hy)
  mem_room y hy := (List.mem_append.1 hy).elim (fun hy ↦ hfilled.mem_room (hbrings.present y hy))
    fun hy ↦ h.mem_room y (List.mem_cons_of_mem _ hy)

theorem Outstanding.left_lt (h : Outstanding e d root top (x :: later)) (hsplits : x.Splits xs) :
    Errand.left d root top (xs ++ later) < Errand.left d root top (x :: later) :=
  hsplits.left_lt h.apart (h.mem_room x (List.mem_cons_self ..))
    (h.sent x (List.mem_cons_self ..)).dir_mem

theorem Errand.exists_splits (x : Errand) : ∃ xs, x.Splits xs := by
  obtain ⟨l, _ | kind⟩ := x
  · have hnodup : (([] : List (Name × Disk.Kind)).map (·.1)).Nodup := .nil
    exact ⟨_, .entries l hnodup⟩
  · exact ⟨_, .done l kind⟩

theorem enough_of_no_tasks (s : Summary) : Enough t e fuel ⟨[], s⟩ w := by
  intro more
  cases fuel <;> cases more <;> rfl

theorem enough_of_left (g : Ground d root top n) (hdir : n.kind = .dir)
    (h : Outstanding e d root top xs)
    (htame : Tame (Filled d root top) (Fits d root top) w)
    (hleft : Errand.left d root top xs ≤ fuel) (s : Summary) :
    Enough t e fuel ⟨xs.map (Errand.task root), s⟩ w := by
  have htop : ∃ es, d.top.at? top = some (.dir es) := by
    rw [(Disk.lookup_eq_ok_iff.1 g.rooted).2.at?_eq]
    cases n <;> simp_all [Node.kind]
  induction fuel generalizing xs w s with
  | zero =>
    cases xs with
    | nil => exact enough_of_no_tasks s
    | cons x later =>
      obtain ⟨xs, hsplits⟩ := x.exists_splits
      have := h.left_lt hsplits
      omega
  | succ fuel ih =>
    cases xs with
    | nil => exact enough_of_no_tasks s
    | cons x later =>
      intro more
      have hsent := h.sent x (List.mem_cons_self ..)
      have hroom := h.mem_room x (List.mem_cons_self ..)
      have hentered := tame_entered filled_outlasts htame (x.task root)
      rw [Nat.add_right_comm, List.map_cons, run_succ, run_succ]
      obtain ⟨noted, hnoted, hrun⟩ :=
        run_step (t := t) (e := e) (x.task root) (later.map (Errand.task root)) s w
      rw [hrun]
      cases hgain : (x.task root).gain t e ((x.task root).entered w).disk with
      | error f => rfl
      | ok gain =>
        have hfilled := hentered.disk
        obtain ⟨xs, htasks, hbrings⟩ :=
          hsent.exists_brings g hfilled.grows hfilled.wellFormed hgain
        rw [hgain] at hrun
        have hnext := tame_step filled_outlasts htame
          (fun _ _ hg hr ↦ hsent.fits htop hroom hg hr) hrun
        have := h.left_lt hbrings.splits
        simp only [outcome, htasks, ← List.map_append] at hnext ⊢
        exact ih (h.next hfilled hbrings) hnext (by omega) _ more

theorem outstanding_root {es : List (Name × Node)} (hd : d.top.at? top = some (.dir es)) :
    Outstanding e d root top [⟨[], some .dir⟩] where
  apart := List.pairwise_singleton ..
  sent x hx := by
    obtain rfl := List.mem_singleton.1 hx
    exact .visit .root (kept_nil e root) (by simp [hd])
  mem_room x hx := by
    obtain rfl := List.mem_singleton.1 hx
    rw [List.append_nil]
    exact List.mem_append_left _ (List.mem_append_left _ (Node.mem_locations hd))

/-- A walk from a directory never does as many tasks as it may. -/
theorem enough_taskBound {es : List (Name × Node)} (g : Ground w.disk root top (.dir es))
    (hqueue : w.writer.queue = []) :
    Enough t e (taskBound w.disk) ⟨[.visit root .dir], {}⟩ w := by
  have htame : Tame (Filled w.disk root top) (Fits w.disk root top) w :=
    ⟨filled_refl g.wellFormed, by simp [hqueue]⟩
  have hat := (Disk.lookup_eq_ok_iff.1 g.rooted).2.at?_eq
  refine enough_of_left g rfl (outstanding_root hat) htame ?_ {}
  calc Errand.left w.disk root top [⟨[], some .dir⟩]
      ≤ (room w.disk root top).length + (dirs w.disk).length :=
        Nat.add_le_add (List.countP_le_length ..) (List.countP_le_length ..)
    _ ≤ 4 * w.disk.top.size := length_room_add_length_dirs ..
    _ ≤ taskBound w.disk := Nat.le_add_right ..

end StyleTypings.Walk
