import StyleTypings.Css.Stylesheet
import StyleTypings.Proofs.Css.Identifier
import StyleTypings.Proofs.Css.Reading

namespace StyleTypings.Css

inductive NameKind where
  | cls
  | id
deriving DecidableEq, Repr

/-- A rule without declarations whose selector is one name, and the white space behind the rule. -/
structure NamedRule where
  kind : NameKind
  name : String
  gap : String := ""
  name_ne : name ≠ ""
  no_nul : '\x00' ∉ name.toList
  gap_blank : ∀ c ∈ gap.toList, isSpace c = true

namespace NamedRule

def mark (r : NamedRule) : Char :=
  match r.kind with
  | .cls => '.'
  | .id => '#'

def text (r : NamedRule) : List Char :=
  r.mark :: (identifier r.name ++ ' ' :: '\x7b' :: '\x7d' :: r.gap.toList)

def sheet (rules : List NamedRule) : String := String.ofList (rules.flatMap text)

def front (r : NamedRule) : List Token :=
  match r.kind with
  | .cls => [.delim '.', .ident r.name]
  | .id => [.idHash r.name]

def behind (r : NamedRule) : List Token :=
  if r.gap = "" then [] else [.whiteSpace r.gap]

def tokens (r : NamedRule) : List Token :=
  r.front ++ .whiteSpace " " :: .openCurly :: .closeCurly :: r.behind

def simple (r : NamedRule) : Simple :=
  match r.kind with
  | .cls => .cls r.name
  | .id => .id r.name

def rule (r : NamedRule) : Rule := .style [.first [r.simple]] []

end NamedRule

/-- The tokens of a text, with the places where they stand. -/
inductive Lexes : Source → List Lexeme → Prop
  | nil {p : Pos} : Lexes ⟨[], p⟩ []
  | cons {c : Char} {cs : List Char} {p : Pos} {t : Token} {s : Source} {ls : List Lexeme}
      (hread : Token.read c ⟨c :: cs, p⟩ = (t, s)) (hlength : s.chars.length ≤ cs.length)
      (h : Lexes s ls) : Lexes ⟨c :: cs, p⟩ (⟨t, p, s.pos⟩ :: ls)

theorem Lexes.lexemesAux {s : Source} {ls : List Lexeme} (h : Lexes s ls) {n : Nat}
    (hn : s.chars.length ≤ n) (acc : List Lexeme) :
    (Css.lexemesAux n acc s).1 = ls.reverse ++ acc := by
  induction h generalizing n acc with
  | nil => cases n <;> rfl
  | @cons c cs p t s ls hread hlength _ ih =>
    cases n with
    | zero => simp at hn
    | succ n =>
      have hs : s.chars.length ≤ n := Nat.le_trans hlength (Nat.le_of_succ_le_succ hn)
      simp only [Css.lexemesAux, hread]
      rw [ih hs, List.reverse_cons, List.append_assoc]
      rfl

def HasTokens (chars : List Char) (tokens : List Token) : Prop :=
  ∀ p, ∃ ls, Lexes ⟨chars, p⟩ ls ∧ ls.map (·.token) = tokens

theorem HasTokens.cons {c : Char} {cs after : List Char} {t : Token} {tokens : List Token}
    (hread : ∀ p, ∃ q, Token.read c ⟨c :: cs, p⟩ = (t, ⟨after, q⟩))
    (hlength : after.length ≤ cs.length)
    (h : HasTokens after tokens) : HasTokens (c :: cs) (t :: tokens) := by
  intro p
  obtain ⟨q, hq⟩ := hread p
  obtain ⟨ls, hls, htokens⟩ := h q
  exact ⟨_, .cons hq hlength hls, by rw [List.map_cons, htokens]⟩

theorem HasTokens.lexemes {text : String} {tokens : List Token}
    (h : HasTokens text.toList tokens) : (lexemes text).1.map (·.token) = tokens := by
  obtain ⟨ls, hls, htokens⟩ := h .start
  have haux := hls.lexemesAux (Nat.le_refl _) []
  simp only [Css.lexemes, Source.ofString]
  rw [haux, List.append_nil, List.reverse_reverse, htokens]

theorem span_isSpace {blank rest : List Char} (hblank : ∀ c ∈ blank, isSpace c = true)
    (hrest : ∀ c, rest.head? = some c → isSpace c = false) (acc : List Char) (p : Pos) :
    ∃ q, Source.spanAux isSpace acc (blank ++ rest) p = (acc.reverse ++ blank, ⟨rest, q⟩) := by
  induction blank generalizing acc p with
  | nil =>
    refine ⟨p, ?_⟩
    cases rest with
    | nil => simp [Source.spanAux]
    | cons c rest => simp [Source.spanAux, hrest c rfl]
  | cons c blank ih =>
    obtain ⟨q, hq⟩ := ih (fun d hd ↦ hblank d (List.mem_cons_of_mem c hd)) (c :: acc)
      (p.step c (blank ++ rest))
    refine ⟨q, ?_⟩
    simp only [List.cons_append, Source.spanAux, hblank c List.mem_cons_self, if_true, hq,
      List.reverse_cons, List.append_assoc, List.nil_append]

namespace NamedRule

theorem hasTokens_gap (r : NamedRule) {rest : List Char} {tokens : List Token}
    (hrest : ∀ c, rest.head? = some c → isSpace c = false) (h : HasTokens rest tokens) :
    HasTokens (r.gap.toList ++ rest) (r.behind ++ tokens) := by
  unfold behind
  split
  · next hgap =>
    rw [hgap]
    exact h
  · next hgap =>
    obtain ⟨c, blank, hc⟩ := List.exists_cons_of_ne_nil fun hnil ↦
      hgap (String.toList_eq_nil_iff.1 hnil)
    have hblank := r.gap_blank
    rw [hc] at hblank
    rw [hc, List.cons_append]
    refine .cons (fun p ↦ ?_) (by simp) h
    obtain ⟨q, hq⟩ := span_isSpace hblank hrest [] p
    refine ⟨q, ?_⟩
    have hspan : (Source.mk (c :: (blank ++ rest)) p).span isSpace = (c :: blank, ⟨rest, q⟩) := hq
    simp only [Token.read, hblank c List.mem_cons_self, if_true, hspan]
    rw [← hc, String.ofList_toList]

theorem hasTokens_identifier (r : NamedRule) {rest : List Char} {tokens : List Token}
    (h : HasTokens (' ' :: rest) tokens) :
    HasTokens (identifier r.name ++ ' ' :: rest) (.ident r.name :: tokens) := by
  obtain ⟨c, cs, hc⟩ := exists_identifier_eq_cons r.name_ne
  rw [hc, List.cons_append]
  exact .cons (read_identifier r.name_ne r.no_nul hc rest) (by simp) h

theorem hasTokens_front (r : NamedRule) {rest : List Char} {tokens : List Token}
    (h : HasTokens (' ' :: rest) tokens) :
    HasTokens (r.mark :: (identifier r.name ++ ' ' :: rest)) (r.front ++ tokens) := by
  unfold mark front
  cases r.kind with
  | cls => exact .cons (read_point r.name_ne rest) (Nat.le_refl _) (r.hasTokens_identifier h)
  | id => exact .cons (read_hash r.name_ne r.no_nul rest) (by simp) h

theorem hasTokens_text (r : NamedRule) {rest : List Char} {tokens : List Token}
    (hrest : ∀ c, rest.head? = some c → isSpace c = false) (h : HasTokens rest tokens) :
    HasTokens (r.text ++ rest) (r.tokens ++ tokens) := by
  have hclose : HasTokens ('\x7d' :: (r.gap.toList ++ rest))
      (.closeCurly :: (r.behind ++ tokens)) :=
    .cons (fun p ↦ ⟨_, rfl⟩) (Nat.le_refl _) (r.hasTokens_gap hrest h)
  have hopen := HasTokens.cons (c := '\x7b') (fun p ↦ ⟨_, rfl⟩) (Nat.le_refl _) hclose
  have hblank := HasTokens.cons (c := ' ') (t := .whiteSpace " ") (fun p ↦ ⟨_, rfl⟩)
    (Nat.le_refl _) hopen
  simpa [text, NamedRule.tokens] using r.hasTokens_front hblank

theorem head?_sheet (rules : List NamedRule) (c : Char)
    (h : (rules.flatMap text).head? = some c) : isSpace c = false := by
  cases rules with
  | nil => cases h
  | cons r rules =>
    cases h
    unfold mark
    cases r.kind <;> rfl

theorem hasTokens_sheet (rules : List NamedRule) :
    HasTokens (rules.flatMap text) (rules.flatMap tokens) := by
  induction rules with
  | nil => exact fun p ↦ ⟨[], .nil, rfl⟩
  | cons r rules ih => exact r.hasTokens_text (head?_sheet rules) ih

end NamedRule

def Lexeme.leaf (l : Lexeme) : Component := .leaf l.token l.start l.stop

inductive Items : List NamedRule → List Component → Prop
  | nil : Items [] []
  | cons {r : NamedRule} {rules : List NamedRule} {front behind : List Lexeme} {blank : Lexeme}
      {items : List Component} (start inner close stop : Pos)
      (hfront : front.map (·.token) = r.front) (hblank : blank.token = .whiteSpace " ")
      (hbehind : behind.map (·.token) = r.behind) (h : Items rules items) :
      Items (r :: rules) (front.map Lexeme.leaf ++ blank.leaf ::
        .block .openCurly start inner [] close stop :: (behind.map Lexeme.leaf ++ items))

section Gathering

open Component

theorem step_leaf {l : Lexeme} (h : l.token.closer? = none) (found : List Component) :
    Gathering.step ⟨[], found⟩ l = ⟨[], l.leaf :: found⟩ := by
  simp [Gathering.step, Gathering.add, h, Lexeme.leaf]

theorem foldl_step_leaves {ls : List Lexeme} {tokens : List Token}
    (hls : ls.map (·.token) = tokens) (h : ∀ t ∈ tokens, t.closer? = none)
    (found : List Component) :
    ls.foldl Gathering.step ⟨[], found⟩ = ⟨[], (ls.map Lexeme.leaf).reverse ++ found⟩ := by
  induction ls generalizing tokens found with
  | nil => rfl
  | cons l ls ih =>
    subst hls
    rw [List.foldl_cons, step_leaf (h _ List.mem_cons_self),
      ih rfl fun t ht ↦ h t (List.mem_cons_of_mem _ ht), List.map_cons, List.reverse_cons,
      List.append_assoc]
    rfl

theorem NamedRule.closer?_front (r : NamedRule) : ∀ t ∈ r.front, t.closer? = none := by
  unfold NamedRule.front
  cases r.kind <;> simp [Token.closer?]

theorem NamedRule.closer?_behind (r : NamedRule) : ∀ t ∈ r.behind, t.closer? = none := by
  unfold NamedRule.behind
  split <;> simp [Token.closer?]

theorem exists_items (rules : List NamedRule) {ls : List Lexeme}
    (h : ls.map (·.token) = rules.flatMap NamedRule.tokens) (found : List Component) :
    ∃ items, Items rules items ∧
      ls.foldl Gathering.step ⟨[], found⟩ = ⟨[], items.reverse ++ found⟩ := by
  induction rules generalizing ls found with
  | nil =>
    obtain rfl : ls = [] := by simpa using h
    exact ⟨[], .nil, rfl⟩
  | cons r rules ih =>
    simp only [List.flatMap_cons, NamedRule.tokens, List.append_assoc, List.cons_append] at h
    obtain ⟨front, ls₁, rfl, hfront, h₁⟩ := List.map_eq_append_iff.1 h
    obtain ⟨blank, ls₂, rfl, hblank, h₂⟩ := List.map_eq_cons_iff.1 h₁
    obtain ⟨⟨_, start, inner⟩, ls₃, rfl, rfl, h₃⟩ := List.map_eq_cons_iff.1 h₂
    obtain ⟨⟨_, close, stop⟩, ls₄, rfl, rfl, h₄⟩ := List.map_eq_cons_iff.1 h₃
    obtain ⟨behind, ls₅, rfl, hbehind, h₅⟩ := List.map_eq_append_iff.1 h₄
    -- The tokens around the block are leaves, and the block is closed as soon as it is opened.
    obtain ⟨items, hitems, hfold⟩ := ih h₅
      ((behind.map Lexeme.leaf).reverse ++ .block .openCurly start inner [] close stop ::
        blank.leaf :: ((front.map Lexeme.leaf).reverse ++ found))
    refine ⟨_, .cons start inner close stop hfront hblank hbehind hitems, ?_⟩
    have hclosed : Gathering.step (Gathering.step
        ⟨[], blank.leaf :: ((front.map Lexeme.leaf).reverse ++ found)⟩
        ⟨.openCurly, start, inner⟩) ⟨.closeCurly, close, stop⟩ =
        ⟨[], .block .openCurly start inner [] close stop :: blank.leaf ::
          ((front.map Lexeme.leaf).reverse ++ found)⟩ := rfl
    rw [List.foldl_append, foldl_step_leaves hfront r.closer?_front, List.foldl_cons,
      step_leaf (by rw [hblank]; rfl), List.foldl_cons, List.foldl_cons, hclosed,
      List.foldl_append, foldl_step_leaves hbehind r.closer?_behind, hfold]
    simp

theorem NamedRule.items_of_sheet (rules : List NamedRule) (stop : Pos) :
    Items rules (Component.ofLexemes (lexemes (NamedRule.sheet rules)).1 stop) := by
  have htokens : (lexemes (NamedRule.sheet rules)).1.map (·.token) =
      rules.flatMap NamedRule.tokens :=
    HasTokens.lexemes (by simpa [NamedRule.sheet] using NamedRule.hasTokens_sheet rules)
  obtain ⟨items, hitems, hfold⟩ := exists_items rules htokens []
  rw [Component.ofLexemes, hfold, List.append_nil, Gathering.finish, List.reverse_reverse]
  exact hitems

end Gathering

open Reader

/-- A rule is read as a style rule whatever follows it. -/
theorem NamedRule.run_styleRule (r : NamedRule) {front : List Lexeme} {blank : Lexeme}
    (hfront : front.map (·.token) = r.front) (hblank : blank.token = .whiteSpace " ")
    (start inner close stop here finish : Pos) (rest : List Component) (depth : Nat) :
    (Rule.styleRule (depth + 1) false false).run
      ⟨front.map Lexeme.leaf ++ blank.leaf :: .block .openCurly start inner [] close stop :: rest,
        here, finish⟩ = .ok ([r.rule], ⟨rest, stop, finish⟩) := by
  obtain ⟨_, s, e⟩ := blank
  subst hblank
  rw [Rule.styleRule, Rule.rules]
  unfold NamedRule.front at hfront
  unfold NamedRule.rule NamedRule.simple
  cases hk : r.kind with
  | cls =>
    simp only [hk] at hfront
    obtain ⟨⟨_, s₁, e₁⟩, ls, rfl, rfl, hls⟩ := List.map_eq_cons_iff.1 hfront
    obtain ⟨⟨_, s₂, e₂⟩, ls, rfl, rfl, hnil⟩ := List.map_eq_cons_iff.1 hls
    obtain rfl := List.map_eq_nil_iff.1 hnil
    rfl
  | id =>
    simp only [hk] at hfront
    obtain ⟨⟨_, s₁, e₁⟩, ls, rfl, rfl, hls⟩ := List.map_eq_cons_iff.1 hfront
    obtain rfl := List.map_eq_nil_iff.1 hls
    rfl

theorem skipBetween_behind {r : NamedRule} {behind : List Lexeme}
    (h : behind.map (·.token) = r.behind) (items : List Component) :
    Stylesheet.skipBetween (behind.map Lexeme.leaf ++ items) = Stylesheet.skipBetween items := by
  unfold NamedRule.behind at h
  split at h
  · obtain rfl := List.map_eq_nil_iff.1 h
    rfl
  · obtain ⟨⟨_, s, e⟩, ls, rfl, rfl, hls⟩ := List.map_eq_cons_iff.1 h
    obtain rfl := List.map_eq_nil_iff.1 hls
    rfl

/-- A rule that does not begin with `@` is read as a style rule, and the reading goes on behind
it. -/
theorem run_rules_of_style {span after : Span} {c : Component} {items : List Component}
    {found : List Rule} (hspan : Stylesheet.skipBetween span.items = c :: items)
    (hblank : c.token.isBlank = false) (hat : ∀ name, c.token ≠ .atKeyword name) {depth : Nat}
    (hstyle : (Rule.styleRule depth false false).run (span.at_ (c :: items)) = .ok (found, after))
    (n : Nat) (first : Bool) (s : Section) :
    (Stylesheet.rules depth (n + 1) first s).run span =
      (do return found ++ (← Stylesheet.rules depth n false .body) : Reader (List Rule)).run
        after := by
  have hnext : ∃ mid, next?.run (span.at_ (c :: items)) = .ok (some c, mid) := by
    refine ⟨⟨items, c.inner, span.stop⟩, ?_⟩
    simp only [next?, skipBlank, Span.at_, Span.front, StateT.run_bind, StateT.run_modify,
      dropBlank, hblank]
    rfl
  obtain ⟨mid, hmid⟩ := hnext
  rw [Stylesheet.rules]
  simp only [StateT.run_bind, StateT.run_modify, StateT.run_get, hspan, pure_bind, hmid]
  change (Except.bind (.ok (some c, mid)) _) = _
  simp only [Except.bind]
  cases hc : c.token with
  | atKeyword name => exact absurd hc (hat name)
  | _ =>
    simp only [StateT.run_bind, StateT.run_set, pure_bind, hstyle]
    rfl

theorem NamedRule.exists_front (r : NamedRule) {front : List Lexeme}
    (h : front.map (·.token) = r.front) : ∃ l ls, front = l :: ls ∧ l.token.isBlank = false ∧
      l.token ≠ .cdo ∧ l.token ≠ .cdc ∧ ∀ name, l.token ≠ .atKeyword name := by
  unfold NamedRule.front at h
  cases hk : r.kind <;> simp only [hk] at h <;>
    obtain ⟨l, ls, rfl, hl, -⟩ := List.map_eq_cons_iff.1 h <;>
    exact ⟨l, ls, rfl, by simp [hl, Token.isBlank]⟩

theorem Items.skipBetween {rules : List NamedRule} {items : List Component}
    (h : Items rules items) : Stylesheet.skipBetween items = items := by
  cases h with
  | nil => rfl
  | cons start inner close stop hfront =>
    obtain ⟨l, ls, rfl, hblank, hcdo, hcdc, -⟩ := NamedRule.exists_front _ hfront
    simp [Stylesheet.skipBetween, Lexeme.leaf, Component.token, hblank, hcdo, hcdc]

theorem Items.run_rules {rules : List NamedRule} {items : List Component} (h : Items rules items)
    {span : Span} (hspan : Stylesheet.skipBetween span.items = items) {n : Nat}
    (hn : rules.length < n) (depth : Nat) (first : Bool) (s : Section) :
    ∃ after, (Stylesheet.rules (depth + 1) n first s).run span =
      .ok (rules.map NamedRule.rule, after) := by
  induction h generalizing span n first s with
  | nil =>
    obtain ⟨n, rfl⟩ := Nat.exists_eq_succ_of_ne_zero (Nat.ne_of_gt hn)
    refine ⟨⟨[], span.stop, span.stop⟩, ?_⟩
    rw [Stylesheet.rules]
    simp only [StateT.run_bind, StateT.run_modify, StateT.run_get, hspan, pure_bind]
    rfl
  | @cons r rules front behind blank items start inner close stop hfront hblank hbehind h ih =>
    obtain ⟨n, rfl⟩ := Nat.exists_eq_succ_of_ne_zero (Nat.ne_of_gt (Nat.zero_lt_of_lt hn))
    obtain ⟨l, ls, hl, hlblank, -, -, hat⟩ := r.exists_front hfront
    have hstyle := r.run_styleRule hfront hblank start inner close stop
      (span.at_ (front.map Lexeme.leaf ++ blank.leaf ::
        .block .openCurly start inner [] close stop :: (behind.map Lexeme.leaf ++ items))).here
      span.stop (behind.map Lexeme.leaf ++ items) depth
    have hrest : Stylesheet.skipBetween
        (Span.mk (behind.map Lexeme.leaf ++ items) stop span.stop).items = items := by
      rw [skipBetween_behind hbehind, h.skipBetween]
    obtain ⟨after, hafter⟩ := ih hrest (Nat.lt_of_succ_lt_succ hn) false .body
    refine ⟨after, ?_⟩
    subst hl
    rw [run_rules_of_style hspan hlblank hat hstyle]
    simp only [StateT.run_bind, hafter]
    rfl

theorem Items.length_le {rules : List NamedRule} {items : List Component} (h : Items rules items) :
    rules.length ≤ items.length := by
  induction h with
  | nil => exact Nat.le_refl _
  | cons =>
    simp only [List.length_append, List.length_cons]
    omega

theorem NamedRule.parse_sheet (rules : List NamedRule) :
    parse (sheet rules) = .ok (rules.map rule) := by
  have hitems := NamedRule.items_of_sheet rules (lexemes (sheet rules)).2
  let span : Span := ⟨Component.ofLexemes (lexemes (sheet rules)).1 (lexemes (sheet rules)).2,
    (lexemes (sheet rules)).2, (lexemes (sheet rules)).2⟩
  have hspan : Stylesheet.skipBetween (span.at_ span.items).items = span.items := hitems.skipBetween
  obtain ⟨after, hafter⟩ := hitems.run_rules hspan (Nat.lt_succ_of_le hitems.length_le)
    (lexemes (sheet rules)).1.length true .start
  simp only [parse]
  exact congrArg (Functor.map Prod.fst) hafter

theorem withFirstOccurrences_eq (seen names : List String) :
    withFirstOccurrences seen names = seen ++ (names.filter (· ∉ seen)).eraseDups := by
  induction names generalizing seen with
  | nil => simp [withFirstOccurrences]
  | cons name names ih =>
    have hstep : withFirstOccurrences seen (name :: names) =
        withFirstOccurrences (if seen.contains name then seen else seen ++ [name]) names := rfl
    rw [hstep, ih]
    by_cases hseen : name ∈ seen
    · simp [hseen]
    · have hfilter : ∀ b, (!decide (b ∈ seen) && !decide (b = name)) =
          (!b == name && !decide (b ∈ seen)) := fun b ↦ by
        rw [Bool.and_comm]
        rfl
      simp [hseen, List.eraseDups_cons, hfilter]

theorem NamedRule.selectors_rule (r : NamedRule) :
    r.rule.selectors.flatMap Selector.names = [r.name] := by
  unfold NamedRule.rule NamedRule.simple
  cases r.kind <;> rfl

theorem NamedRule.names_rules (rules : List NamedRule) :
    names (rules.map rule) = (rules.map (·.name)).eraseDups := by
  have hnames : (rules.map rule).flatMap (fun r ↦ r.selectors.flatMap Selector.names) =
      rules.map (·.name) := by
    rw [List.flatMap_map, List.map_eq_flatMap]
    exact congrArg (rules.flatMap ·) (funext selectors_rule)
  rw [names_eq, hnames, withFirstOccurrences_eq]
  simp

end StyleTypings.Css
