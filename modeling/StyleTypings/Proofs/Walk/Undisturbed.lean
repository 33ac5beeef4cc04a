import StyleTypings.Proofs.Walk.Settled
import StyleTypings.Proofs.Walk.Visits

namespace StyleTypings.Walk

open Disk (Location Name Node)
open Text (Bytes encode)

def Task.idle : Task → Bool
  | .enter _ => false
  | .visit _ .dir => false
  | .visit path _ => (stylesheet? path).isNone

def active (tasks : List Task) : List Task := tasks.filter fun task ↦ !task.idle

theorem active_append (a b : List Task) : active (a ++ b) = active a ++ active b :=
  List.filter_append ..

theorem active_cons_of_idle {task : Task} (h : task.idle = true) (later : List Task) :
    active (task :: later) = active later :=
  List.filter_cons_of_neg (by simp [h])

theorem active_cons_of_not_idle {task : Task} (h : task.idle = false) (later : List Task) :
    active (task :: later) = task :: active later :=
  List.filter_cons_of_pos (by simp [h])

section Comes

variable (t : Toolchain) (e : Exclusion) (d : Disk)

/-- What a walk comes to on a disk that stays as it is: what it submits, in order, and its answer.
-/
inductive Comes : List Task → Summary → List WriteRequest → Except Failure Summary → Prop
  | arrive (s : Summary) : Comes [] s [] (.ok s)
  | stop {task : Task} {later : List Task} {s : Summary} {f : Failure}
      (h : task.gain t e d = .error f) : Comes (task :: later) s [] (.error f)
  | step {task : Task} {later : List Task} {s : Summary} {g : Gain}
      {rs : List WriteRequest} {answer : Except Failure Summary} (h : task.gain t e d = .ok g)
      (hrest : Comes (active g.tasks ++ later) (s ++ g.summary) rs answer) :
      Comes (task :: later) s (g.request?.toList ++ rs) answer

variable {t e d}

theorem Comes.unique {tasks : List Task} {s : Summary} {rs rs' : List WriteRequest}
    {answer answer' : Except Failure Summary} (h : Comes t e d tasks s rs answer)
    (h' : Comes t e d tasks s rs' answer') : rs = rs' ∧ answer = answer' := by
  induction h generalizing rs' answer' with
  | arrive s =>
    cases h'
    exact ⟨rfl, rfl⟩
  | stop hgain =>
    cases h' with
    | stop hgain' =>
      rw [hgain] at hgain'
      cases hgain'
      exact ⟨rfl, rfl⟩
    | step hgain' =>
      rw [hgain] at hgain'
      cases hgain'
  | step hgain _ ih =>
    cases h' with
    | stop hgain' =>
      rw [hgain] at hgain'
      cases hgain'
    | step hgain' hrest' =>
      rw [hgain] at hgain'
      cases hgain'
      obtain ⟨rfl, rfl⟩ := ih hrest'
      exact ⟨rfl, rfl⟩

end Comes

variable {t : Toolchain} {e : Exclusion} {d d' : Disk} {root : Bytes} {top : Location} {n : Node}

theorem gain_of_idle {task : Task} (h : task.idle = true) : task.gain t e d = .ok {} := by
  cases task with
  | enter path => cases h
  | visit path kind =>
    cases kind with
    | dir => cases h
    | file | link =>
      have hnone : stylesheet? path = none := by simpa [Task.idle] using h
      simp only [Task.gain, hnone]

theorem exists_gain_sheet {path : Bytes} {kind : Disk.Kind} (hk : kind ≠ .dir)
    (h : (Task.visit path kind).idle = false) : ∃ text, stylesheet? path = some text ∧
      ∀ d, (Task.visit path kind).gain t e d = sheetGain t d text := by
  cases kind with
  | dir => exact absurd rfl hk
  | file | link =>
    obtain ⟨text, hsheet⟩ := Option.isSome_iff_exists.1 (Option.isNone_eq_false_iff.1 h)
    exact ⟨text, hsheet, gain_of_stylesheet hk hsheet⟩

structure Gain.Like (g g' : Gain) : Prop where
  active_eq : active g'.tasks = active g.tasks
  summary_eq : g'.summary = g.summary
  request_eq : g'.request? = g.request?

/-- Tasks that are left to a walk, and how many it will do at most: visits to entries that can be
reached, listings of directories that are not excluded, and visits for nothing. -/
inductive Pending (e : Exclusion) (d : Disk) (root : Bytes) (top : Location) (n : Node) :
    List Task → Nat → Prop
  | nil : Pending e d root top n [] 0
  | visit {l : Location} {m : Node} {later : List Task} {cost : Nat} (hm : n.at? l = some m)
      (hkept : Kept e root l) (habove : ∀ above x, l = above ++ [x] → Opened d root top above)
      (h : Pending e d root top n later cost) :
      Pending e d root top n (.visit (pathBelow root l) m.kind :: later) (weight (some m) + cost)
  | enter {l : Location} {es : List (Name × Node)} {later : List Task} {cost : Nat}
      (hd : n.at? l = some (.dir es)) (hkept : Kept e root l)
      (he : e.excludes (Text.lossy (pathBelow root l)) = false)
      (habove : ∀ above x, l = above ++ [x] → Opened d root top above)
      (h : Pending e d root top n later cost) :
      Pending e d root top n (.enter (pathBelow root l) :: later)
        (1 + 3 * Node.sizeOfEntries es + cost)
  | idle {task : Task} {later : List Task} {cost : Nat} (hidle : task.idle = true)
      (h : Pending e d root top n later cost) : Pending e d root top n (task :: later) (1 + cost)

theorem Pending.tail {task : Task} {later : List Task} {cost : Nat}
    (h : Pending e d root top n (task :: later) cost) :
    ∃ cost', cost' < cost ∧ Pending e d root top n later cost' := by
  cases h with
  | @visit l m later cost hm hkept habove h =>
    have := size_pos m
    refine ⟨cost, ?_, h⟩
    simp only [weight]
    omega
  | enter hd hkept he habove h | idle hidle h => exact ⟨_, by omega, h⟩

theorem Pending.entries {l : Location}
    (hkept : Kept e root l) (he : e.excludes (Text.lossy (pathBelow root l)) = false)
    (hopen : Opened d root top l) {entries : List (Name × Disk.Kind)}
    (hlisted : ∀ entry ∈ entries, Listed n l entry) {later : List Task} {cost : Nat}
    (h : Pending e d root top n later cost) :
    Pending e d root top n (visitsTo root l entries ++ later)
      ((entries.map fun entry ↦ weight (n.at? (l ++ [entry.1]))).sum + cost) := by
  induction entries with
  | nil => simpa [visitsTo] using h
  | cons entry entries ih =>
    have hlater := ih fun other hm ↦ hlisted other (List.mem_cons_of_mem _ hm)
    obtain ⟨name, kind⟩ := entry
    rw [List.map_cons, List.sum_cons, Nat.add_assoc]
    rcases hlisted _ (List.mem_cons_self ..) with
      ⟨child, hchild, hkind⟩ | ⟨hnone, hkind, x, hx, hname⟩
    · dsimp only at hchild hkind ⊢
      subst hkind
      rw [hchild]
      refine .visit hchild (hkept.append_name he name) (fun above x hl ↦ ?_) hlater
      obtain ⟨rfl, -⟩ := List.append_inj' hl rfl
      exact hopen
    · dsimp only at hnone hkind hname ⊢
      subst hkind hname
      rw [hnone]
      refine .idle ?_ hlater
      exact Option.isNone_iff_eq_none.2 (stylesheet?_made hx)

theorem gain_visit_dir {later : List Task} {l : Location} {es : List (Name × Node)} {cost : Nat}
    (hd : n.at? l = some (.dir es)) (hkept : Kept e root l)
    (habove : ∀ above x, l = above ++ [x] → Opened d root top above)
    (h : Pending e d root top n later cost) :
    ∃ g cost', (∀ d', (Task.visit (pathBelow root l) .dir).gain t e d' = .ok g) ∧
      g.request? = none ∧ cost' < weight (some (.dir es)) + cost ∧
      Pending e d root top n (g.tasks ++ later) cost' := by
  have hweight : weight (some (.dir es)) = 2 + 3 * Node.sizeOfEntries es := by
    simp only [weight, Node.size]
    omega
  cases he : e.excludes (Text.lossy (pathBelow root l)) with
  | true =>
    refine ⟨{ summary := ⟨[], [Text.lossy (pathBelow root l)]⟩ }, cost, fun _ ↦ ?_, rfl,
      by omega, h⟩
    rw [Task.gain, if_pos he]
  | false =>
    refine ⟨{ tasks := [.enter (pathBelow root l)] }, 1 + 3 * Node.sizeOfEntries es + cost,
      fun _ ↦ ?_, rfl, by omega, .enter hd hkept he habove h⟩
    rw [Task.gain, if_neg (by simp [he])]

section Calm

variable (c : Calm t d root top n)
include c

theorem Settled.sheetGain_eq (hs : Settled t e d root top n d') {l : Location} {m : Node}
    (hm : n.at? l = some m) (hk : m.kind ≠ .dir)
    (habove : ∀ above x, l = above ++ [x] → Opened d root top above) {text : String}
    (hsheet : stylesheet? (pathBelow root l) = some text) :
    sheetGain t d' text = sheetGain t d text := by
  have hread : d'.readText (encode text) = d.readText (encode text) := by
    rw [Text.decode?_eq_some_iff.1 (stylesheet?_eq_some_iff.1 hsheet).1]
    refine Disk.readText_congr ?_ hs.keeps.grows.barred_eq
    rcases hs.keeps.lookup_cases c.toGround c.no_links hm habove with
      ⟨fault, hl, hl'⟩ | ⟨m', hl, hl', hat⟩
    · rw [hl, hl']
    · rw [hs.at?_sheet c hm hk hsheet] at hat
      cases hat
      rw [hl, hl']
  simp only [sheetGain, hread, c.functional.namesOf_eq d' d, c.functional.requestFor_eq d' d]

theorem Settled.gain_file (hs : Settled t e d root top n d') {l : Location} {m : Node}
    (hm : n.at? l = some m) (hk : m.kind ≠ .dir) (hkept : Kept e root l)
    (habove : ∀ above x, l = above ++ [x] → Opened d root top above)
    (hidle : (Task.visit (pathBelow root l) m.kind).idle = false) :
    (Task.visit (pathBelow root l) m.kind).gain t e d' =
        (Task.visit (pathBelow root l) m.kind).gain t e d ∧
      ∀ g, (Task.visit (pathBelow root l) m.kind).gain t e d = .ok g →
        g.tasks = [] ∧ ∀ r, g.request? = some r → Asked t e d root top n r := by
  obtain ⟨text, hsheet, hgain⟩ := exists_gain_sheet (t := t) (e := e) hk hidle
  rw [hgain, hgain]
  refine ⟨hs.sheetGain_eq c hm hk habove hsheet, fun g hg ↦ ⟨?_, fun r hr ↦ ?_⟩⟩
  · obtain ⟨_, _, -, -, rfl⟩ := sheetGain_eq_ok_iff.1 hg
    rfl
  · have hne : l ≠ [] := by
      rintro rfl
      rw [Node.at?_nil] at hm
      cases hm
      exact hk c.directory
    obtain ⟨above, x, rfl⟩ := (List.eq_nil_or_concat l).resolve_left hne
    rw [List.concat_eq_append] at *
    exact ⟨above, x, text, g, habove above x rfl,
      ((chosen_file_iff hm hk hkept).2 ⟨rfl, hsheet⟩).2, hg, hr⟩

theorem active_visitsTo (hs : Settled t e d root top n d') {l : Location}
    {es es' : List (Name × Node)} (hd : n.at? l = some (.dir es))
    (hd' : d'.top.at? (top ++ l) = some (.dir es')) {entries entries' : List (Name × Disk.Kind)}
    (hlisting : Listing n l es es entries) (hlisting' : Listing n l es es' entries') :
    active (visitsTo root l entries') = active (visitsTo root l entries) := by
  have hfilter : ∀ entries, active (visitsTo root l entries) = visitsTo root l (entries.filter
      fun entry ↦ !(Task.visit (pathBelow root (l ++ [entry.1])) entry.2).idle) := by
    intro entries
    rw [active, visitsTo, List.filter_map]
    rfl
  rw [hfilter, hfilter]
  congr 1
  refine entries_eq_of_mem_iff (hlisting'.ordered.filter _) (hlisting.ordered.filter _)
    fun entry ↦ ?_
  rw [List.mem_filter, List.mem_filter, hlisting'.mem_iff, hlisting.mem_iff]
  refine and_congr_left fun hidle ↦ ⟨?_, ?_⟩
  · rintro ⟨m, hm, hkind⟩
    rcases listed_of_keeps c.toGround hs.keeps hd hd' hm with
      ⟨child, hchild, hkind'⟩ | ⟨-, hkind', x, child, hx, hname⟩
    · exact ⟨child, hchild, hkind.trans hkind'⟩
    · rw [hkind, hkind', hname, Task.idle, stylesheet?_made (c.plain hd hx)] at hidle
      cases hidle
      simp
  · rintro ⟨child, hchild, hkind⟩
    obtain ⟨m, hm⟩ := exists_listed c.toGround hs.keeps hd hd' hchild
    rcases listed_of_keeps c.toGround hs.keeps hd hd' hm with
      ⟨child', hchild', hkind'⟩ | ⟨hnone, -⟩
    · rw [hchild] at hchild'
      cases hchild'
      exact ⟨m, hm, hkind.trans hkind'.symm⟩
    · rw [hchild] at hnone
      cases hnone

theorem Settled.gain_enter (hs : Settled t e d root top n d') {l : Location}
    {es : List (Name × Node)} (hd : n.at? l = some (.dir es)) (hkept : Kept e root l)
    (he : e.excludes (Text.lossy (pathBelow root l)) = false)
    (habove : ∀ above x, l = above ++ [x] → Opened d root top above)
    {later : List Task} {cost : Nat} (h : Pending e d root top n later cost) :
    (∃ f, (Task.enter (pathBelow root l)).gain t e d = .error f ∧
        (Task.enter (pathBelow root l)).gain t e d' = .error f) ∨
      ∃ tasks tasks' cost', (Task.enter (pathBelow root l)).gain t e d = .ok { tasks } ∧
        (Task.enter (pathBelow root l)).gain t e d' = .ok { tasks := tasks' } ∧
        active tasks' = active tasks ∧ cost' ≤ 3 * Node.sizeOfEntries es + cost ∧
        Pending e d root top n (tasks' ++ later) cost' := by
  rcases hs.keeps.lookup_cases c.toGround c.no_links hd habove with
    ⟨fault, hl, hl'⟩ | ⟨m', hl, hl', hat⟩
  · refine .inl ⟨failure (pathBelow root l) fault, ?_, ?_⟩
    · simp only [Task.gain, Disk.list_of_error hl]
    · simp only [Task.gain, Disk.list_of_error hl']
  · obtain ⟨es', rfl⟩ : ∃ es', m' = .dir es' := by
      have hgrew := hs.keeps.grows.top (top ++ l)
      rw [c.at?_append, hd, hat] at hgrew
      obtain ⟨es', hes'⟩ := hgrew.dir_iff.1 ⟨es, rfl⟩
      exact ⟨es', Option.some.inj hes'⟩
    have hlist := Disk.list_of_dir hl
    have hlist' := Disk.list_of_dir hl'
    rw [hs.keeps.grows.barred_eq] at hlist'
    cases hbar : d.barred.lookup (top ++ l) with
    | some fault =>
      refine .inl ⟨failure (pathBelow root l) fault, ?_, ?_⟩
      · simp only [Task.gain, hlist, hbar]
      · simp only [Task.gain, hlist', hbar]
    | none =>
      have hopen : Opened d root top l := ⟨es, hl⟩
      have hkeeps : Keeps d d := ⟨c.wellFormed, .refl _ _⟩
      obtain ⟨entries, hvisits, hlisting⟩ :=
        exists_listing c.toGround hkeeps hd (by rw [c.at?_append, hd])
      obtain ⟨entries', hvisits', hlisting'⟩ := exists_listing c.toGround hs.keeps hd hat
      refine .inr ⟨visitsTo root l entries, visitsTo root l entries', _, ?_, ?_,
        active_visitsTo c hs hd hat hlisting hlisting', ?_,
        .entries hkept he hopen hlisting'.listed h⟩
      · simp only [Task.gain, hlist, hbar, hvisits]
      · simp only [Task.gain, hlist', hbar, hvisits']
      · have := hlisting'.sum_le
        omega

/-- What a task that may add something adds is what it would have added in the beginning, but for
visits for nothing. -/
theorem Settled.gain_cases (hs : Settled t e d root top n d') {task : Task} {later : List Task}
    {cost : Nat} (h : Pending e d root top n (task :: later) cost) (hidle : task.idle = false) :
    (∃ f, task.gain t e d = .error f ∧ task.gain t e d' = .error f) ∨
      ∃ g g' cost', task.gain t e d = .ok g ∧ task.gain t e d' = .ok g' ∧ g.Like g' ∧
        cost' < cost ∧ Pending e d root top n (g'.tasks ++ later) cost' ∧
        ∀ r, g.request? = some r → Asked t e d root top n r := by
  cases h with
  | idle hidle' =>
    rw [hidle] at hidle'
    cases hidle'
  | @enter l es later cost hd hkept he habove h =>
    rcases hs.gain_enter c hd hkept he habove h with hf | ⟨tasks, tasks', cost', hgain, hgain',
      hactive, hcost, hpending⟩
    · exact .inl hf
    · exact .inr ⟨_, _, cost', hgain, hgain', ⟨hactive, rfl, rfl⟩, by omega, hpending, by simp⟩
  | @visit l m later cost hm hkept habove h =>
    cases m with
    | dir es =>
      obtain ⟨g, cost', hgain, hnone, hcost, hpending⟩ :=
        gain_visit_dir (t := t) hm hkept habove h
      exact .inr ⟨g, g, cost', hgain d, hgain d', ⟨rfl, rfl, rfl⟩, hcost, hpending, by simp [hnone]⟩
    | file content executable =>
      have hk : (Node.file content executable).kind ≠ .dir := by simp [Node.kind]
      have hpos := size_pos (Node.file content executable)
      obtain ⟨hsame, hall⟩ := hs.gain_file c hm hk hkept habove hidle
      cases hgain : (Task.visit (pathBelow root l) .file).gain t e d with
      | error f => exact .inl ⟨f, hgain, hsame.trans hgain⟩
      | ok g =>
        obtain ⟨htasks, hasked⟩ := hall g hgain
        refine .inr ⟨g, g, cost, hgain, hsame.trans hgain, ⟨rfl, rfl, rfl⟩, ?_, ?_, hasked⟩
        · simp only [weight]
          omega
        · rw [htasks]
          exact h
    | link target => exact absurd hm (c.no_links l target)

end Calm

end StyleTypings.Walk
