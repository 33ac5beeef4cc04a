import Mathlib.Data.List.Forall2
import StyleTypings.Css.Lexer

namespace StyleTypings.Css

/-- Whether a character stands for itself in an identifier; digits do so behind its beginning. -/
def standsForItself (c : Char) : Bool :=
  c.toNat ≥ 0x80 || c == '-' || c == '_' || c.isAlphanum

def numberEscape (c : Char) : List Char := '\\' :: (Nat.toDigits 16 c.toNat ++ [' '])

def written (c : Char) : List Char :=
  if c.toNat ≤ 0x1f || c.toNat == 0x7f then numberEscape c
  else if standsForItself c then [c]
  else ['\\', c]

/-- How a character is written where a digit would begin a number. -/
def writtenFirst (c : Char) : List Char :=
  if c.isDigit then numberEscape c else written c

def writtenChars : List Char → List (List Char)
  | [] => []
  | ['-'] => [['\\', '-']]
  | '-' :: c :: rest => ['-'] :: writtenFirst c :: rest.map written
  | c :: rest => writtenFirst c :: rest.map written

def identifier (name : String) : List Char := (writtenChars name.toList).flatten

/-- A text that is read as one character of a name. -/
inductive Spells : List Char → Char → Prop
  | itself {c : Char} (h : isNameChar c = true) : Spells [c] c
  | behindBackslash {c : Char} (hhex : isHexDigit c = false) (hline : isNewline c = false)
      (hnul : c ≠ '\x00') : Spells ['\\', c] c
  | byNumber {c : Char} (hpos : 0 < c.toNat) (hascii : c.toNat < 0x80) : Spells (numberEscape c) c

theorem takeHex_digits (digits rest : List Char) {n : Nat} (value : Nat) (p : Pos)
    (hdigits : ∀ d ∈ digits, isHexDigit d = true) (hn : digits.length ≤ n) :
    ∃ q, takeHex n value ⟨digits ++ ' ' :: rest, p⟩ =
      (digits.foldl (fun v d ↦ v * 16 + hexValue d) value, ⟨' ' :: rest, q⟩) := by
  induction digits generalizing n value p with
  | nil =>
    cases n with
    | zero => exact ⟨p, rfl⟩
    | succ n => exact ⟨p, rfl⟩
  | cons d digits ih =>
    cases n with
    | zero => simp at hn
    | succ n =>
      obtain ⟨q, hq⟩ := ih (value * 16 + hexValue d) (p.step d (digits ++ ' ' :: rest))
        (fun e he ↦ hdigits e (List.mem_cons_of_mem d he)) (by simpa using hn)
      refine ⟨q, ?_⟩
      rw [List.cons_append, takeHex]
      simp only [hdigits d List.mem_cons_self, if_true]
      exact hq

/-- The hexadecimal digits of a number in ASCII are few and give the number. -/
theorem toDigits_sixteen {n : Nat} (h : n < 0x80) : Nat.toDigits 16 n ≠ [] ∧
    (∀ d ∈ Nat.toDigits 16 n, isHexDigit d = true) ∧ (Nat.toDigits 16 n).length ≤ 6 ∧
    (Nat.toDigits 16 n).foldl (fun v d ↦ v * 16 + hexValue d) 0 = n := by
  have hall : ∀ n < 0x80, Nat.toDigits 16 n ≠ [] ∧ (Nat.toDigits 16 n).all isHexDigit = true ∧
      (Nat.toDigits 16 n).length ≤ 6 ∧
      (Nat.toDigits 16 n).foldl (fun v d ↦ v * 16 + hexValue d) 0 = n := by
    decide +kernel
  obtain ⟨hne, hdigits, hrest⟩ := hall n h
  exact ⟨hne, List.all_eq_true.1 hdigits, hrest⟩

theorem scalar_toNat {c : Char} (h : c.toNat ≠ 0) : scalar c.toNat = c := by
  have hvalid : c.toNat.isValidChar := c.valid
  rw [scalar, if_neg h, dif_pos hvalid]
  rfl

theorem isNewline_of_isHexDigit {d : Char} (h : isHexDigit d = true) : isNewline d = false := by
  cases hn : isNewline d with
  | false => rfl
  | true =>
    simp only [isNewline, Bool.or_eq_true, beq_iff_eq] at hn
    rcases hn with (rfl | rfl) | rfl <;> exact absurd h (by decide)

/-- Behind its backslash, a number is read up to the space that ends it. -/
theorem takeEscape_number {c d : Char} {digits : List Char} (hc : c.toNat ≠ 0)
    (hd : Nat.toDigits 16 c.toNat = d :: digits) (hascii : c.toNat < 0x80) (rest : List Char)
    (p : Pos) : ∃ q, takeEscape ⟨d :: (digits ++ ' ' :: rest), p⟩ = (c, ⟨rest, q⟩) := by
  obtain ⟨-, hdigits, hlength, hvalue⟩ := toDigits_sixteen hascii
  obtain ⟨q, hq⟩ := takeHex_digits _ rest 0 p hdigits hlength
  have hhex : isHexDigit d = true := hdigits d (hd ▸ List.mem_cons_self)
  rw [hvalue, hd, List.cons_append] at hq
  refine ⟨q.step ' ' rest, ?_⟩
  simp only [takeEscape, hhex, if_true, hq, scalar_toNat hc]
  rfl

theorem takeNameAux_of_escape {acc : List Char} {c d : Char} {rest after : List Char} {p q : Pos}
    (hline : isNewline d = false)
    (h : takeEscape ⟨d :: rest, p.step '\\' (d :: rest)⟩ = (c, ⟨after, q⟩)) :
    takeNameAux acc ⟨'\\' :: d :: rest, p⟩ = takeNameAux (c :: acc) ⟨after, q⟩ := by
  rw [takeNameAux]
  simp [isNameChar, startsNewline, hline, Source.tail, h]

theorem Spells.takeNameAux {l : List Char} {c : Char} (h : Spells l c) (acc rest : List Char)
    (p : Pos) : ∃ q, takeNameAux acc ⟨l ++ rest, p⟩ = takeNameAux (c :: acc) ⟨rest, q⟩ := by
  cases h with
  | itself h =>
    refine ⟨p.step c rest, ?_⟩
    rw [Css.takeNameAux]
    simp [h, Source.tail]
  | behindBackslash hhex hline hnul =>
    refine ⟨(p.step '\\' (c :: rest)).step c rest, takeNameAux_of_escape hline ?_⟩
    simp [takeEscape, hhex, hnul, Source.tail]
  | byNumber hpos hascii =>
    obtain ⟨hne, hdigits, -⟩ := toDigits_sixteen hascii
    obtain ⟨d, digits, hd⟩ := List.exists_cons_of_ne_nil hne
    obtain ⟨q, hq⟩ := takeEscape_number (Nat.ne_of_gt hpos) hd hascii rest
      (p.step '\\' (d :: (digits ++ ' ' :: rest)))
    refine ⟨q, ?_⟩
    rw [numberEscape, hd, List.cons_append, List.append_assoc]
    exact takeNameAux_of_escape (isNewline_of_isHexDigit (hdigits d (hd ▸ List.mem_cons_self))) hq

theorem takeNameAux_spelled {parts : List (List Char)} {name : List Char}
    (h : List.Forall₂ Spells parts name) (acc rest : List Char) (p : Pos) :
    ∃ q, takeNameAux acc ⟨parts.flatten ++ rest, p⟩ =
      takeNameAux (name.reverse ++ acc) ⟨rest, q⟩ := by
  induction h generalizing acc p with
  | nil => exact ⟨p, rfl⟩
  | @cons l c parts name hl _ ih =>
    obtain ⟨q, hq⟩ := hl.takeNameAux acc (parts.flatten ++ rest) p
    obtain ⟨q', hq'⟩ := ih (c :: acc) q
    refine ⟨q', ?_⟩
    rw [List.flatten_cons, List.append_assoc, hq, hq', List.reverse_cons, List.append_assoc]
    rfl

def endsName : List Char → Bool
  | [] => true
  | c :: rest => !isNameChar c && c != '\x00' && !(c == '\\' && !startsNewline rest)

theorem takeName_spelled {parts : List (List Char)} {name : List Char}
    (h : List.Forall₂ Spells parts name) {rest : List Char} (hrest : endsName rest = true)
    (p : Pos) : ∃ q, takeName ⟨parts.flatten ++ rest, p⟩ = (String.ofList name, ⟨rest, q⟩) := by
  obtain ⟨q, hq⟩ := takeNameAux_spelled h [] rest p
  refine ⟨q, ?_⟩
  rw [takeName, hq, takeNameAux]
  cases rest with
  | nil => simp
  | cons c rest =>
    simp only [endsName, Bool.and_eq_true, Bool.not_eq_true', bne_iff_ne] at hrest
    obtain ⟨⟨hname, hnul⟩, hescape⟩ := hrest
    simp [hname, hnul, hescape]

theorem standsForItself_eq (c : Char) : standsForItself c = isNameChar c := by
  simp only [standsForItself, isNameChar]
  grind

theorem isAlpha_eq (c : Char) :
    c.isAlpha = (decide (c.val ≥ 'A'.val ∧ c.val ≤ 'Z'.val) ||
      c.val ≥ 'a'.val && c.val ≤ 'z'.val) := rfl

theorem isNameChar_of_isHexDigit {c : Char} (h : isHexDigit c = true) : isNameChar c = true := by
  simp only [isHexDigit, Char.isDigit, Bool.or_eq_true, Bool.and_eq_true, decide_eq_true_eq,
    Char.le_def, UInt32.le_iff_toNat_le] at h
  have hc : c.isAlphanum = true := by
    simp only [Char.isAlphanum, isAlpha_eq, Char.isDigit, Bool.or_eq_true,
      Bool.and_eq_true, decide_eq_true_eq, UInt32.le_iff_toNat_le, ge_iff_le]
    simp at h ⊢
    omega
  simp [isNameChar, hc]

theorem toNat_pos {c : Char} (h : c ≠ '\x00') : 0 < c.toNat := by
  refine Nat.pos_of_ne_zero fun hc ↦ h ?_
  exact Char.toNat_inj.1 hc

theorem isNewline_of_not_control {c : Char} (h : ¬(c.toNat ≤ 0x1f || c.toNat == 0x7f) = true) :
    isNewline c = false := by
  refine Bool.eq_false_iff.2 fun hline ↦ h ?_
  simp only [isNewline, Bool.or_eq_true, beq_iff_eq] at hline
  rcases hline with (rfl | rfl) | rfl <;> rfl

theorem spells_written {c : Char} (h : c ≠ '\x00') : Spells (written c) c := by
  unfold written
  split
  · next hcontrol =>
    simp only [Bool.or_eq_true, decide_eq_true_eq, beq_iff_eq] at hcontrol
    exact .byNumber (toNat_pos h) (by omega)
  · next hcontrol =>
    split
    · next hitself => exact .itself (standsForItself_eq c ▸ hitself)
    · next hitself =>
      rw [standsForItself_eq] at hitself
      refine .behindBackslash ?_ ?_ h
      · exact Bool.eq_false_iff.2 fun hhex ↦ hitself (isNameChar_of_isHexDigit hhex)
      · exact isNewline_of_not_control hcontrol

theorem isDigit_lt {c : Char} (h : c.isDigit = true) : c.toNat < 0x80 := by
  simp only [Char.isDigit, Bool.and_eq_true, decide_eq_true_eq, UInt32.le_iff_toNat_le] at h
  exact Nat.lt_of_le_of_lt h.2 (by decide)

theorem spells_writtenFirst {c : Char} (h : c ≠ '\x00') : Spells (writtenFirst c) c := by
  unfold writtenFirst
  split
  · next hdigit => exact .byNumber (toNat_pos h) (isDigit_lt hdigit)
  · exact spells_written h

theorem spells_map_written {name : List Char} (h : '\x00' ∉ name) :
    List.Forall₂ Spells (name.map written) name := by
  induction name with
  | nil => exact .nil
  | cons c name ih =>
    rw [List.mem_cons, not_or] at h
    exact .cons (spells_written (Ne.symm h.1)) (ih h.2)

theorem spells_writtenChars {name : List Char} (h : '\x00' ∉ name) :
    List.Forall₂ Spells (writtenChars name) name := by
  fun_cases writtenChars name with
  | case1 => exact .nil
  | case2 => exact .cons (.behindBackslash rfl rfl (by decide)) .nil
  | case3 c rest =>
    simp only [List.mem_cons, not_or] at h
    exact .cons (.itself rfl)
      (.cons (spells_writtenFirst (Ne.symm h.2.1)) (spells_map_written h.2.2))
  | case4 c rest =>
    simp only [List.mem_cons, not_or] at h
    exact .cons (spells_writtenFirst (Ne.symm h.1)) (spells_map_written h.2)

theorem takeName_identifier {name : String} (h : '\x00' ∉ name.toList) {rest : List Char}
    (hrest : endsName rest = true) (p : Pos) :
    ∃ q, takeName ⟨identifier name ++ rest, p⟩ = (name, ⟨rest, q⟩) := by
  obtain ⟨q, hq⟩ := takeName_spelled (spells_writtenChars h) hrest p
  exact ⟨q, by rw [identifier, hq, String.ofList_toList]⟩

/-- An identifier begins here, and no other token does. -/
inductive Begins : List Char → Prop
  | escape {d : Char} {rest : List Char} (h : isNewline d = false) : Begins ('\\' :: d :: rest)
  | letter {c : Char} {rest : List Char} (h : isNameStart c = true) : Begins (c :: rest)
  | hyphen {rest : List Char} (h : Begins rest) : Begins ('-' :: rest)
  | hyphens {rest : List Char} (h : rest.head? ≠ some '>') : Begins ('-' :: '-' :: rest)

theorem begins_numberEscape {c : Char} (h : c.toNat < 0x80) (rest : List Char) :
    Begins (numberEscape c ++ rest) := by
  obtain ⟨hne, hdigits, -⟩ := toDigits_sixteen h
  obtain ⟨d, digits, hd⟩ := List.exists_cons_of_ne_nil hne
  rw [numberEscape, hd]
  exact .escape (isNewline_of_isHexDigit (hdigits d (hd ▸ List.mem_cons_self)))

theorem begins_writtenFirst {c : Char} (h : c ≠ '-') (rest : List Char) :
    Begins (writtenFirst c ++ rest) := by
  unfold writtenFirst
  split
  · next hdigit => exact begins_numberEscape (isDigit_lt hdigit) rest
  · next hdigit =>
    unfold written
    split
    · next hcontrol =>
      simp only [Bool.or_eq_true, decide_eq_true_eq, beq_iff_eq] at hcontrol
      exact begins_numberEscape (by omega) rest
    · next hcontrol =>
      split
      · next hitself =>
        refine .letter ?_
        simp only [standsForItself, Char.isAlphanum, isNameStart] at hitself ⊢
        grind
      · exact .escape (isNewline_of_not_control hcontrol)

/-- No character of a name is written so that it could end a mark such as `-->`. -/
theorem head?_flatten_written (name rest : List Char) (h : rest.head? ≠ some '>') :
    ((name.map written).flatten ++ rest).head? ≠ some '>' := by
  cases name with
  | nil => exact h
  | cons c name =>
    rw [List.map_cons, List.flatten_cons, List.append_assoc]
    unfold written
    split
    · simp [numberEscape]
    · split
      · next hitself =>
        rw [List.cons_append, List.head?_cons]
        rintro ⟨⟩
        exact absurd hitself (by decide)
      · simp

theorem begins_writtenChars {name : List Char} (hne : name ≠ []) {rest : List Char}
    (h : rest.head? ≠ some '>') : Begins ((writtenChars name).flatten ++ rest) := by
  fun_cases writtenChars name with
  | case1 => exact absurd rfl hne
  | case2 => exact .escape rfl
  | case3 c more =>
    rw [List.flatten_cons, List.flatten_cons, List.append_assoc, List.append_assoc]
    by_cases hc : c = '-'
    · subst hc
      exact .hyphens (head?_flatten_written more rest h)
    · exact .hyphen (begins_writtenFirst hc _)
  | case4 c more hsingle hhyphen =>
    rw [List.flatten_cons, List.append_assoc]
    refine begins_writtenFirst (fun hc ↦ ?_) _
    cases more with
    | nil => exact hsingle hc rfl
    | cons d more => exact hhyphen d more hc rfl

structure Leads (c : Char) : Prop where
  not_digit : c.isDigit = false
  not_space : isSpace c = false
  ne_point : c ≠ '.'
  ne_plus : c ≠ '+'
  ne_less : c ≠ '<'
  ne_slash : c ≠ '/'

theorem leads_of_isNameStart {c : Char} (h : isNameStart c = true) : Leads c where
  not_digit := by
    refine Bool.eq_false_iff.2 fun hd ↦ ?_
    simp only [isNameStart, isAlpha_eq, Char.isDigit, Bool.or_eq_true, Bool.and_eq_true,
      decide_eq_true_eq, beq_iff_eq, ge_iff_le, UInt32.le_iff_toNat_le] at h hd
    rcases h with ((h | rfl) | h) | rfl
    · simp at h hd
      omega
    · exact absurd hd (by decide)
    · simp at h hd
      omega
    · exact absurd hd (by decide)
  not_space := by
    refine Bool.eq_false_iff.2 fun hs ↦ ?_
    simp only [isSpace, isNewline, Bool.or_eq_true, beq_iff_eq] at hs
    rcases hs with (rfl | rfl) | (rfl | rfl) | rfl <;> exact absurd h (by decide)
  ne_point := by rintro rfl; exact absurd h (by decide)
  ne_plus := by rintro rfl; exact absurd h (by decide)
  ne_less := by rintro rfl; exact absurd h (by decide)
  ne_slash := by rintro rfl; exact absurd h (by decide)

variable {chars : List Char}

theorem Begins.leads (h : Begins chars) : ∃ c rest, chars = c :: rest ∧ Leads c := by
  cases h with
  | escape => exact ⟨_, _, rfl, by constructor <;> decide⟩
  | letter h => exact ⟨_, _, rfl, leads_of_isNameStart h⟩
  | hyphen | hyphens => exact ⟨_, _, rfl, by constructor <;> decide⟩

theorem Begins.behind_hyphen {rest : List Char} (h : Begins ('-' :: rest)) :
    ∃ c more, rest = c :: more ∧ Leads c ∧ (isNameStart c || c == '-' || c == '\\') = true := by
  cases h with
  | letter h => exact absurd h (by decide)
  | hyphens => exact ⟨_, _, rfl, by constructor <;> decide, rfl⟩
  | hyphen h =>
    cases h with
    | escape => exact ⟨_, _, rfl, by constructor <;> decide, rfl⟩
    | letter h => exact ⟨_, _, rfl, leads_of_isNameStart h, by simp [h]⟩
    | hyphen | hyphens => exact ⟨_, _, rfl, by constructor <;> decide, rfl⟩

theorem Begins.startsIdent (h : Begins chars) : Css.startsIdent chars = true := by
  have hhyphen {rest : List Char} (h : Begins ('-' :: rest)) :
      Css.startsIdent ('-' :: rest) = true := by
    obtain ⟨c, more, rfl, -, hc⟩ := h.behind_hyphen
    exact hc
  cases h with
  | escape h => simp [Css.startsIdent, startsNewline, h]
  | @letter c rest h =>
    unfold Css.startsIdent
    split <;> simp_all [isNameStart]
  | hyphen h => exact hhyphen h.hyphen
  | hyphens h => exact hhyphen (.hyphens h)

theorem Begins.startsNumber (h : Begins chars) : Css.startsNumber chars = false := by
  obtain ⟨c, rest, rfl, hc⟩ := h.leads
  by_cases hhyphen : c = '-'
  · subst hhyphen
    obtain ⟨d, more, rfl, hd, -⟩ := h.behind_hyphen
    simp [Css.startsNumber, hd.not_digit, hd.ne_point]
  · simp [Css.startsNumber, hc.not_digit, hc.ne_point, hc.ne_plus, hhyphen]

theorem Begins.not_arrow (h : Begins chars) : ¬['-', '-', '>'] <+: chars := by
  rintro ⟨rest, rfl⟩
  have harrow : ¬Begins ('-' :: '>' :: rest) := by
    intro h
    obtain ⟨_, _, ⟨⟩, -, h⟩ := h.behind_hyphen
    exact absurd h (by decide)
  cases h with
  | letter h => exact absurd h (by decide)
  | hyphen h => exact harrow h
  | hyphens h => exact h rfl

section Name

variable {name : String} (hne : name ≠ "") (hnul : '\x00' ∉ name.toList)

include hne

theorem begins_identifier {rest : List Char} (h : rest.head? ≠ some '>') :
    Begins (identifier name ++ rest) :=
  begins_writtenChars (fun hnil ↦ hne (String.toList_eq_nil_iff.1 hnil)) h

theorem exists_identifier_eq_cons : ∃ c cs, identifier name = c :: cs := by
  have hbegins : Begins (identifier name ++ []) := begins_identifier hne (by simp)
  obtain ⟨c, cs, heq, -⟩ := hbegins.leads
  rw [List.append_nil] at heq
  exact ⟨c, cs, heq⟩

theorem read_point (rest : List Char) (p : Pos) :
    ∃ q, Token.read '.' ⟨'.' :: (identifier name ++ ' ' :: rest), p⟩ =
      (.delim '.', ⟨identifier name ++ ' ' :: rest, q⟩) := by
  have hbegins : Begins (identifier name ++ ' ' :: rest) := begins_identifier hne (by simp)
  obtain ⟨c, more, heq, hc⟩ := hbegins.leads
  have hnumber : startsNumber ('.' :: c :: more) = false := by simp [startsNumber, hc.not_digit]
  rw [heq]
  refine ⟨p.step '.' (c :: more), ?_⟩
  simp only [Token.read, hnumber]
  rfl

include hnul

theorem read_identifier {c : Char} {cs : List Char} (hc : identifier name = c :: cs)
    (rest : List Char) (p : Pos) :
    ∃ q, Token.read c ⟨c :: (cs ++ ' ' :: rest), p⟩ = (.ident name, ⟨' ' :: rest, q⟩) := by
  have hbegins : Begins (identifier name ++ ' ' :: rest) := begins_identifier hne (by simp)
  have hends : endsName (' ' :: rest) = true := rfl
  obtain ⟨q, hq⟩ := takeName_identifier hnul hends p
  rw [hc, List.cons_append] at hbegins hq
  obtain ⟨_, _, ⟨⟩, hleads⟩ := hbegins.leads
  have harrow : (Source.mk (c :: (cs ++ ' ' :: rest)) p).startsWith ['-', '-', '>'] = false := by
    rw [Source.startsWith, Bool.eq_false_iff, ne_eq, List.isPrefixOf_iff_prefix]
    exact hbegins.not_arrow
  have hcdo : (Source.mk (c :: (cs ++ ' ' :: rest)) p).startsWith ['<', '!', '-', '-'] = false := by
    simp [Source.startsWith, List.isPrefixOf, Ne.symm hleads.ne_less]
  have hcomment : (Source.mk (c :: (cs ++ ' ' :: rest)) p).startsWith ['/', '*'] = false := by
    simp [Source.startsWith, List.isPrefixOf, Ne.symm hleads.ne_slash]
  refine ⟨q, ?_⟩
  simp [Token.read, hleads.not_space, hbegins.startsNumber, harrow, hcdo, hcomment,
    hbegins.startsIdent, takeIdentLike, hq]

theorem read_hash (rest : List Char) (p : Pos) :
    ∃ q, Token.read '#' ⟨'#' :: (identifier name ++ ' ' :: rest), p⟩ =
      (.idHash name, ⟨' ' :: rest, q⟩) := by
  have hbegins : Begins (identifier name ++ ' ' :: rest) := begins_identifier hne (by simp)
  have hends : endsName (' ' :: rest) = true := rfl
  obtain ⟨q, hq⟩ := takeName_identifier hnul hends
    (p.step '#' (identifier name ++ ' ' :: rest))
  have hhash : takeHash ⟨identifier name ++ ' ' :: rest,
      p.step '#' (identifier name ++ ' ' :: rest)⟩ = (.idHash name, ⟨' ' :: rest, q⟩) := by
    simp [takeHash, hbegins.startsIdent, hq]
  exact ⟨q, hhash ▸ rfl⟩

end Name

end StyleTypings.Css
