import Mathlib.Data.List.Infix
import StyleTypings.Css.Stylesheet

namespace StyleTypings.Css

/-- The way to a name from the outside inwards: on each level, how many things come in front of the
one that holds the name. What is read earlier has the smaller place. -/
abbrev Place := List Nat

def Selector.compounds : Selector → List (List Simple)
  | .first compound => [compound]
  | .link before _ compound => before.compounds ++ [compound]

mutual

inductive Simple.Stands : Simple → Place → String → Prop
  | cls (name : String) : Simple.Stands (.cls name) [] name
  | id (name : String) : Simple.Stands (.id name) [] name
  | lists (fn : ListFunction) {arguments : List Selector} {i : Nat} {s : Selector} {rest : Place}
      {name : String} (h : arguments[i]? = some s) (hs : Selector.Stands s rest name) :
      Simple.Stands (.lists fn arguments) (i :: rest) name
  | compound (fn : CompoundFunction) {argument : Selector} {rest : Place} {name : String}
      (hs : Selector.Stands argument rest name) : Simple.Stands (.compound fn argument) rest name

/-- The compound counts first and the condition in it second. -/
inductive Selector.Stands : Selector → Place → String → Prop
  | compound {s : Selector} {i j : Nat} {compound : List Simple} {x : Simple} {rest : Place}
      {name : String} (h : s.compounds[i]? = some compound) (hx : compound[j]? = some x)
      (hs : Simple.Stands x rest name) : Selector.Stands s (i :: j :: rest) name

end

inductive Rule.Stands : Rule → Place → String → Prop
  | selector (body : List Rule) {selectors : List Selector} {i : Nat} {s : Selector} {rest : Place}
      {name : String} (h : selectors[i]? = some s) (hs : s.Stands rest name) :
      Stands (.style selectors body) (0 :: i :: rest) name
  | nested (selectors : List Selector) {body : List Rule} {i : Nat} {r : Rule} {rest : Place}
      {name : String} (h : body[i]? = some r) (hr : r.Stands rest name) :
      Stands (.style selectors body) (1 :: i :: rest) name
  | start (stop : List Selector) (body : List Rule) {start : List Selector} {i : Nat}
      {s : Selector} {rest : Place} {name : String} (h : start[i]? = some s)
      (hs : s.Stands rest name) : Stands (.scope start stop body) (0 :: i :: rest) name
  | stop (start : List Selector) (body : List Rule) {stop : List Selector} {i : Nat}
      {s : Selector} {rest : Place} {name : String} (h : stop[i]? = some s)
      (hs : s.Stands rest name) : Stands (.scope start stop body) (1 :: i :: rest) name
  | scoped (start stop : List Selector) {body : List Rule} {i : Nat} {r : Rule} {rest : Place}
      {name : String} (h : body[i]? = some r) (hr : r.Stands rest name) :
      Stands (.scope start stop body) (2 :: i :: rest) name
  | grouped {body : List Rule} {i : Nat} {r : Rule} {rest : Place} {name : String}
      (h : body[i]? = some r) (hr : r.Stands rest name) : Stands (.group body) (i :: rest) name

def Among {α : Type} (stands : α → Place → String → Prop) (as : List α) (place : Place)
    (name : String) : Prop :=
  ∃ i a rest, as[i]? = some a ∧ place = i :: rest ∧ stands a rest name

mutual

theorem Simple.names_stored : (s : Simple) → s.stored.names = s.names
  | .cls _ | .id _ | .other => rfl
  | .lists _ arguments => by
    simp only [Simple.stored, MatchItem.names, Simple.names, Selector.namesOfLists_storedList]
  | .compound _ argument => by
    simp only [Simple.stored, MatchItem.names, Simple.names, Selector.namesOfSelector_stored,
      List.append_nil]

theorem Simple.namesOfSelector_append : (compound : List Simple) → (items : List MatchItem) →
    (current later : List String) →
    MatchItem.namesOfSelector (Simple.storedList compound ++ items) current later =
      MatchItem.namesOfSelector items (current ++ Simple.namesOfList compound) later
  | [], _, _, _ => by simp only [Simple.storedList, Simple.namesOfList, List.nil_append,
      List.append_nil]
  | s :: rest, items, current, later => by
    have hs := Simple.names_stored s
    rw [Simple.storedList, Simple.namesOfList, List.cons_append, ← hs, ← List.append_assoc,
      ← Simple.namesOfSelector_append rest]
    cases s <;> rfl

/-- Reading the kept form gives the names of the compounds in the order in which they are written,
in front of those that come later. -/
theorem Selector.namesOfSelector_stored : (s : Selector) → (later : List String) →
    MatchItem.namesOfSelector s.stored [] later = s.names ++ later
  | .first compound, later => by
    have h := Simple.namesOfSelector_append compound [] [] later
    rw [List.append_nil] at h
    rw [Selector.stored, h]
    rfl
  | .link before c compound, later => by
    rw [Selector.stored, Simple.namesOfSelector_append, MatchItem.namesOfSelector,
      Selector.namesOfSelector_stored before, Selector.names]
    simp

theorem Selector.namesOfLists_storedList : (selectors : List Selector) →
    MatchItem.namesOfLists (Selector.storedList selectors) = Selector.namesOfList selectors
  | [] => rfl
  | s :: rest => by
    rw [Selector.storedList, MatchItem.namesOfLists, Selector.namesOfSelector_stored,
      Selector.namesOfLists_storedList rest, Selector.namesOfList, List.append_nil]

end

def Reading (stands : Place → String → Prop) (names : List String) : Prop :=
  ∃ placed : List (Place × String), placed.map (·.2) = names ∧ placed.Pairwise (·.1 < ·.1) ∧
    ∀ place name, (place, name) ∈ placed ↔ stands place name

section Reading

variable {stands stands' : Place → String → Prop} {names names' : List String}

theorem Reading.congr (h : Reading stands names)
    (hiff : ∀ place name, stands place name ↔ stands' place name) : Reading stands' names := by
  obtain ⟨placed, hnames, hsorted, hmem⟩ := h
  exact ⟨placed, hnames, hsorted, fun place name ↦ (hmem place name).trans (hiff place name)⟩

theorem Reading.nil (h : ∀ place name, ¬stands place name) : Reading stands [] :=
  ⟨[], rfl, .nil, fun place name ↦ by simp [h place name]⟩

theorem Reading.single {name : String}
    (h : ∀ place other, stands place other ↔ place = [] ∧ other = name) : Reading stands [name] :=
  ⟨[([], name)], rfl, List.pairwise_singleton .., fun place other ↦ by simp [h place other]⟩

theorem Reading.append (h : Reading stands names) (h' : Reading stands' names')
    (hlt : ∀ place place' name name', stands place name → stands' place' name' → place < place') :
    Reading (fun place name ↦ stands place name ∨ stands' place name) (names ++ names') := by
  obtain ⟨placed, rfl, hsorted, hmem⟩ := h
  obtain ⟨placed', rfl, hsorted', hmem'⟩ := h'
  refine ⟨placed ++ placed', List.map_append, ?_, fun place name ↦ ?_⟩
  · refine List.pairwise_append.2 ⟨hsorted, hsorted', ?_⟩
    rintro ⟨place, name⟩ hp ⟨place', name'⟩ hp'
    exact hlt place place' name name' ((hmem _ _).1 hp) ((hmem' _ _).1 hp')
  · rw [List.mem_append, hmem, hmem']

theorem Reading.inside (h : Reading stands names) (i : Nat) :
    Reading (fun place name ↦ ∃ rest, place = i :: rest ∧ stands rest name) names := by
  obtain ⟨placed, rfl, hsorted, hmem⟩ := h
  refine ⟨placed.map fun p ↦ (i :: p.1, p.2), by simp, ?_, fun place name ↦ ?_⟩
  · refine List.pairwise_map.2 (hsorted.imp fun hlt ↦ ?_)
    exact List.cons_lt_cons_iff.2 (.inr ⟨rfl, hlt⟩)
  · simp only [List.mem_map, Prod.exists, Prod.mk.injEq]
    constructor
    · rintro ⟨rest, _, hp, rfl, rfl⟩
      exact ⟨rest, rfl, (hmem _ _).1 hp⟩
    · rintro ⟨rest, rfl, hs⟩
      exact ⟨rest, name, (hmem _ _).2 hs, rfl, rfl⟩

theorem Reading.among {α : Type} {stands : α → Place → String → Prop} {names : α → List String}
    {as : List α} (h : ∀ a ∈ as, Reading (stands a) (names a)) :
    Reading (Among stands as) (as.flatMap names) := by
  induction as using List.reverseRecOn with
  | nil => exact .nil fun place name ↦ by simp [Among]
  | append_singleton as a ih =>
    have hlast := (h a (by simp)).inside as.length
    have hbefore := ih fun b hb ↦ h b (by simp [hb])
    rw [List.flatMap_append, List.flatMap_singleton]
    refine (hbefore.append hlast ?_).congr fun place name ↦ ?_
    · rintro _ _ _ _ ⟨i, b, rest, hb, rfl, -⟩ ⟨rest', rfl, -⟩
      exact List.cons_lt_cons_iff.2 (.inl (List.getElem?_eq_some_iff.1 hb).1)
    · constructor
      · rintro (⟨i, b, rest, hb, hplace, hs⟩ | ⟨rest, hplace, hs⟩)
        · have hlt := (List.getElem?_eq_some_iff.1 hb).1
          exact ⟨i, b, rest, by rw [List.getElem?_append_left hlt, hb], hplace, hs⟩
        · exact ⟨as.length, a, rest, by simp, hplace, hs⟩
      · rintro ⟨i, b, rest, hb, hplace, hs⟩
        rcases Nat.lt_trichotomy i as.length with hi | rfl | hi
        · rw [List.getElem?_append_left hi] at hb
          exact .inl ⟨i, b, rest, hb, hplace, hs⟩
        · obtain rfl : a = b := by simpa using hb
          exact .inr ⟨rest, hplace, hs⟩
        · rw [List.getElem?_eq_none (by simp; omega)] at hb
          cases hb

theorem Reading.parts (h : Reading stands names) (h' : Reading stands' names') {i j : Nat}
    (hij : i < j) : Reading (fun place name ↦ (∃ rest, place = i :: rest ∧ stands rest name) ∨
      ∃ rest, place = j :: rest ∧ stands' rest name) (names ++ names') := by
  refine (h.inside i).append (h'.inside j) ?_
  rintro _ _ _ _ ⟨rest, rfl, -⟩ ⟨rest', rfl, -⟩
  exact List.cons_lt_cons_iff.2 (.inl hij)

end Reading

theorem Simple.namesOfList_eq (compound : List Simple) :
    Simple.namesOfList compound = compound.flatMap Simple.names := by
  induction compound with
  | nil => rfl
  | cons s rest ih => rw [Simple.namesOfList, ih, List.flatMap_cons]

theorem Selector.namesOfList_eq (selectors : List Selector) :
    Selector.namesOfList selectors = selectors.flatMap Selector.names := by
  induction selectors with
  | nil => rfl
  | cons s rest ih => rw [Selector.namesOfList, ih, List.flatMap_cons]

theorem Rule.selectorsOfList_eq (rules : List Rule) :
    Rule.selectorsOfList rules = rules.flatMap Rule.selectors := by
  induction rules with
  | nil => rfl
  | cons r rest ih => rw [Rule.selectorsOfList, ih, List.flatMap_cons]

theorem Selector.names_eq (s : Selector) : s.names = s.compounds.flatMap Simple.namesOfList := by
  induction s using Selector.compounds.induct with
  | case1 compound => simp [Selector.names, Selector.compounds]
  | case2 before c compound ih =>
    rw [Selector.names, Selector.compounds, ih, List.flatMap_append, List.flatMap_singleton]

theorem Selector.reading_of_compounds {s : Selector}
    (h : ∀ compound ∈ s.compounds, ∀ x ∈ compound, Reading x.Stands x.names) :
    Reading s.Stands s.names := by
  have hreading : Reading (Among (Among Simple.Stands) s.compounds)
      (s.compounds.flatMap Simple.namesOfList) := by
    refine .among fun compound hc ↦ ?_
    rw [Simple.namesOfList_eq]
    exact .among (h compound hc)
  rw [Selector.names_eq]
  refine hreading.congr fun place name ↦ ?_
  constructor
  · rintro ⟨i, compound, _, hi, rfl, j, x, rest, hj, rfl, hx⟩
    exact .compound hi hj hx
  · rintro ⟨hi, hj, hx⟩
    exact ⟨_, _, _, hi, rfl, _, _, _, hj, rfl, hx⟩

mutual

theorem Simple.reading : (s : Simple) → Reading s.Stands s.names
  | .cls name => by
    refine .single fun place other ↦ ⟨?_, ?_⟩
    · rintro ⟨⟩
      exact ⟨rfl, rfl⟩
    · rintro ⟨rfl, rfl⟩
      exact .cls _
  | .id name => by
    refine .single fun place other ↦ ⟨?_, ?_⟩
    · rintro ⟨⟩
      exact ⟨rfl, rfl⟩
    · rintro ⟨rfl, rfl⟩
      exact .id _
  | .lists fn arguments => by
    rw [Simple.names, Selector.namesOfList_eq]
    refine (Reading.among (Selector.reading_of_mem arguments)).congr fun place name ↦ ⟨?_, ?_⟩
    · rintro ⟨i, s, rest, hi, rfl, hs⟩
      exact .lists fn hi hs
    · rintro ⟨⟩
      exact ⟨_, _, _, by assumption, rfl, by assumption⟩
  | .compound fn argument =>
    (Selector.reading_of_compounds (Selector.reading_of_mem_compounds argument)).congr
      fun place name ↦ ⟨.compound fn, by rintro ⟨⟩; assumption⟩
  | .other => .nil (by rintro place name ⟨⟩)

theorem Simple.reading_of_mem : (compound : List Simple) →
    ∀ x ∈ compound, Reading x.Stands x.names
  | s :: rest, x, hx => by
    rcases List.mem_cons.1 hx with hx | hx
    · rw [hx]
      exact Simple.reading s
    · exact Simple.reading_of_mem rest x hx

theorem Selector.reading_of_mem_compounds : (s : Selector) →
    ∀ compound ∈ s.compounds, ∀ x ∈ compound, Reading x.Stands x.names
  | .first compound, c, hc => by
    rw [List.mem_singleton.1 hc]
    exact Simple.reading_of_mem compound
  | .link before _ compound, c, hc => by
    rcases List.mem_append.1 hc with hc | hc
    · exact Selector.reading_of_mem_compounds before c hc
    · rw [List.mem_singleton.1 hc]
      exact Simple.reading_of_mem compound

theorem Selector.reading_of_mem : (selectors : List Selector) →
    ∀ s ∈ selectors, Reading s.Stands s.names
  | first :: rest, s, hs => by
    rcases List.mem_cons.1 hs with hs | hs
    · rw [hs]
      exact Selector.reading_of_compounds (Selector.reading_of_mem_compounds first)
    · exact Selector.reading_of_mem rest s hs

end

theorem Selector.reading (s : Selector) : Reading s.Stands s.names :=
  Selector.reading_of_compounds (Selector.reading_of_mem_compounds s)

mutual

theorem Rule.reading : (r : Rule) → Reading r.Stands (r.selectors.flatMap Selector.names)
  | .style selectors body => by
    have hselectors := Reading.among fun s (_ : s ∈ selectors) ↦ Selector.reading s
    have hbody := Reading.among (Rule.reading_of_mem body)
    rw [Rule.selectors, Rule.selectorsOfList_eq, List.flatMap_append, List.flatMap_assoc]
    refine (hselectors.parts hbody Nat.zero_lt_one).congr fun place name ↦ ⟨?_, ?_⟩
    · rintro (⟨_, rfl, i, s, rest, hi, rfl, hs⟩ | ⟨_, rfl, i, r, rest, hi, rfl, hr⟩)
      · exact .selector body hi hs
      · exact .nested selectors hi hr
    · rintro (⟨_, hi, hs⟩ | ⟨_, hi, hr⟩)
      · exact .inl ⟨_, rfl, _, _, _, hi, rfl, hs⟩
      · exact .inr ⟨_, rfl, _, _, _, hi, rfl, hr⟩
  | .scope start stop body => by
    have hstart := Reading.among fun s (_ : s ∈ start) ↦ Selector.reading s
    have hstop := Reading.among fun s (_ : s ∈ stop) ↦ Selector.reading s
    have hbody := Reading.among (Rule.reading_of_mem body)
    rw [Rule.selectors, Rule.selectorsOfList_eq, List.flatMap_append, List.flatMap_append,
      List.flatMap_assoc]
    refine ((hstart.parts hstop Nat.zero_lt_one).append (hbody.inside 2) ?_).congr
      fun place name ↦ ⟨?_, ?_⟩
    · rintro _ _ _ _ (⟨rest, rfl, -⟩ | ⟨rest, rfl, -⟩) ⟨rest', rfl, -⟩
      · exact List.cons_lt_cons_iff.2 (.inl Nat.two_pos)
      · exact List.cons_lt_cons_iff.2 (.inl Nat.one_lt_two)
    · rintro ((⟨_, rfl, i, s, rest, hi, rfl, hs⟩ | ⟨_, rfl, i, s, rest, hi, rfl, hs⟩) |
        ⟨_, rfl, i, r, rest, hi, rfl, hr⟩)
      · exact .start stop body hi hs
      · exact .stop start body hi hs
      · exact .scoped start stop hi hr
    · rintro (_ | _ | ⟨_, _, hi, hs⟩ | ⟨_, _, hi, hs⟩ | ⟨_, _, hi, hr⟩)
      · exact .inl (.inl ⟨_, rfl, _, _, _, hi, rfl, hs⟩)
      · exact .inl (.inr ⟨_, rfl, _, _, _, hi, rfl, hs⟩)
      · exact .inr ⟨_, rfl, _, _, _, hi, rfl, hr⟩
  | .group body => by
    rw [Rule.selectors, Rule.selectorsOfList_eq, List.flatMap_assoc]
    refine (Reading.among (Rule.reading_of_mem body)).congr fun place name ↦ ⟨?_, ?_⟩
    · rintro ⟨i, r, rest, hi, rfl, hr⟩
      exact .grouped hi hr
    · rintro ⟨⟩
      exact ⟨_, _, _, by assumption, rfl, by assumption⟩

theorem Rule.reading_of_mem : (rules : List Rule) →
    ∀ r ∈ rules, Reading r.Stands (r.selectors.flatMap Selector.names)
  | first :: rest, r, hr => by
    rcases List.mem_cons.1 hr with hr | hr
    · rw [hr]
      exact Rule.reading first
    · exact Rule.reading_of_mem rest r hr

end

theorem withFirstOccurrences_append_singleton (names : List String) (name : String) :
    withFirstOccurrences [] (names ++ [name]) =
      if name ∈ withFirstOccurrences [] names then withFirstOccurrences [] names
      else withFirstOccurrences [] names ++ [name] := by
  simp [withFirstOccurrences]

theorem Reading.withFirstOccurrences {stands : Place → String → Prop} {names : List String}
    (h : Reading stands names) : (withFirstOccurrences [] names).Nodup ∧
      (∀ name, name ∈ withFirstOccurrences [] names ↔ ∃ place, stands place name) ∧
      (withFirstOccurrences [] names).Pairwise fun a b ↦
        ∃ place, stands place a ∧ ∀ other, stands other b → place < other := by
  obtain ⟨placed, rfl, hsorted, hmem⟩ := h
  simp only [← hmem]
  clear hmem
  induction placed using List.reverseRecOn with
  | nil => simp [Css.withFirstOccurrences]
  | append_singleton placed p ih =>
    obtain ⟨place, name⟩ := p
    rw [List.pairwise_append] at hsorted
    obtain ⟨hnodup, hiff, hpairs⟩ := ih hsorted.1
    have hlt : ∀ {q other}, (q, other) ∈ placed → q < place := fun hq ↦
      hsorted.2.2 _ hq _ (List.mem_singleton_self _)
    -- What was in order stays in order: the new place is behind all others.
    have hstill : ∀ {a b}, (∃ q, (q, a) ∈ placed ∧ ∀ other, (other, b) ∈ placed → q < other) →
        ∃ q, (q, a) ∈ placed ++ [(place, name)] ∧
          ∀ other, (other, b) ∈ placed ++ [(place, name)] → q < other := by
      rintro a b ⟨q, hq, hbefore⟩
      refine ⟨q, List.mem_append_left _ hq, fun other ho ↦ ?_⟩
      rcases List.mem_append.1 ho with ho | ho
      · exact hbefore other ho
      · obtain ⟨rfl, rfl⟩ := Prod.mk.inj (List.mem_singleton.1 ho)
        exact hlt hq
    rw [List.map_append, List.map_singleton, withFirstOccurrences_append_singleton]
    split
    next hseen =>
      refine ⟨hnodup, fun other ↦ ?_, hpairs.imp hstill⟩
      rw [hiff]
      constructor
      · rintro ⟨q, hq⟩
        exact ⟨q, List.mem_append_left _ hq⟩
      · rintro ⟨q, hq⟩
        rcases List.mem_append.1 hq with hq | hq
        · exact ⟨q, hq⟩
        · obtain ⟨-, rfl⟩ := Prod.mk.inj (List.mem_singleton.1 hq)
          exact (hiff _).1 hseen
    next hnew =>
      refine ⟨?_, fun other ↦ ?_, ?_⟩
      · exact List.nodup_append.2 ⟨hnodup, by simp, fun a ha b hb he ↦
          hnew (List.mem_singleton.1 hb ▸ he ▸ ha)⟩
      · simp only [List.mem_append, hiff, List.mem_singleton, Prod.mk.injEq, exists_or,
          exists_eq_left]
      · refine List.pairwise_append.2 ⟨hpairs.imp hstill, List.pairwise_singleton .., ?_⟩
        intro a ha b hb
        obtain rfl := List.mem_singleton.1 hb
        obtain ⟨q, hq⟩ := (hiff a).1 ha
        refine ⟨q, List.mem_append_left _ hq, fun other ho ↦ ?_⟩
        rcases List.mem_append.1 ho with ho | ho
        · exact absurd ((hiff b).2 ⟨other, ho⟩) hnew
        · obtain ⟨rfl, -⟩ := Prod.mk.inj (List.mem_singleton.1 ho)
          exact hlt hq

theorem names_eq (sheet : List Rule) :
    names sheet = withFirstOccurrences []
      (sheet.flatMap fun r ↦ r.selectors.flatMap Selector.names) := by
  rw [names, distinctNames, Selector.namesOfLists_storedList, Selector.namesOfList_eq,
    Rule.selectorsOfList_eq, List.flatMap_assoc]

/-- The names of a stylesheet are those that stand anywhere in it as a class or an id, at any depth
of its rules and selectors. Each is told once, and they are told in the order of their first places,
which is that of reading. -/
theorem names_in_reading_order (sheet : List Rule) :
    (names sheet).Nodup ∧
      (∀ name, name ∈ names sheet ↔ ∃ place, Among Rule.Stands sheet place name) ∧
      (names sheet).Pairwise fun a b ↦ ∃ place, Among Rule.Stands sheet place a ∧
        ∀ other, Among Rule.Stands sheet other b → place < other := by
  rw [names_eq]
  exact (Reading.among (Rule.reading_of_mem sheet)).withFirstOccurrences

/-- `.btn:not(.off, .on) > #main::before \x7b .off .nest \x7b\x7d \x7d`, the way it is kept. -/
example : names [.style
    [.link (.link (.first [.cls "btn", .lists .not [.first [.cls "off"], .first [.cls "on"]]])
      .child [.id "main"]) .pseudoElement [.other]]
    [.style [.link (.first [.cls "off"]) .descendant [.cls "nest"]] []]] =
      ["btn", "off", "on", "main", "nest"] := by decide +kernel

end StyleTypings.Css
