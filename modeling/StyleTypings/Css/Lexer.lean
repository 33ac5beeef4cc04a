import StyleTypings.Css.Position
import StyleTypings.Css.Token

namespace StyleTypings.Css

def replacement : Char := '\ufffd'

def isSpace (c : Char) : Bool :=
  c == ' ' || c == '\t' || isNewline c

/-- Letters, `_`, and everything outside ASCII, may begin a name; so may NUL, which is read as the
replacement character. -/
def isNameStart (c : Char) : Bool :=
  c.isAlpha || c == '_' || c.toNat ≥ 0x80 || c == '\x00'

def isNameChar (c : Char) : Bool :=
  c.isAlphanum || c == '_' || c == '-' || c.toNat ≥ 0x80

def isHexDigit (c : Char) : Bool :=
  c.isDigit || ('a' ≤ c && c ≤ 'f') || ('A' ≤ c && c ≤ 'F')

def hexValue (c : Char) : Nat :=
  if c.isDigit then c.toNat - 48
  else if 'a' ≤ c then c.toNat - 87
  else c.toNat - 55

/-- The character with this number. Zero, surrogates and what lies beyond Unicode give the
replacement character. -/
def scalar (n : Nat) : Char :=
  if n = 0 then replacement
  else if h : n.isValidChar then Char.ofNatAux n h
  else replacement

def startsNewline : List Char → Bool
  | c :: _ => isNewline c
  | [] => false

/-- Whether an identifier begins here. Behind a first `-` only one more character is looked at, so
`-` and a backslash begin one whatever follows them. -/
def startsIdent : List Char → Bool
  | [] => false
  | '-' :: rest =>
    match rest with
    | [] => false
    | c :: _ => isNameStart c || c == '-' || c == '\\'
  | '\\' :: rest => !startsNewline rest
  | c :: _ => isNameStart c

def takeHex : Nat → Nat → Source → Nat × Source
  | 0, value, s => (value, s)
  | n + 1, value, s =>
    match s.chars with
    | c :: _ => if isHexDigit c then takeHex n (value * 16 + hexValue c) s.tail else (value, s)
    | [] => (value, s)

def skipSpace (s : Source) : Source :=
  match s.chars with
  | '\r' :: '\n' :: _ => s.tail.tail
  | c :: _ => if isSpace c then s.tail else s
  | [] => s

def takeEscape (s : Source) : Char × Source :=
  match s.chars with
  | [] => (replacement, s)
  | c :: _ =>
    if isHexDigit c then
      let (value, rest) := takeHex 6 0 s
      (scalar value, skipSpace rest)
    else if c == '\x00' then (replacement, s.tail)
    else (c, s.tail)

theorem length_takeHex_le (n value : Nat) (s : Source) :
    (takeHex n value s).2.chars.length ≤ s.chars.length := by
  induction n generalizing value s with
  | zero => simp [takeHex]
  | succ n ih =>
    unfold takeHex
    split
    · split
      · exact Nat.le_trans (ih _ _) s.length_tail_le
      · exact Nat.le_refl _
    · exact Nat.le_refl _

theorem length_skipSpace_le (s : Source) : (skipSpace s).chars.length ≤ s.chars.length := by
  unfold skipSpace
  split
  · exact Nat.le_trans s.tail.length_tail_le s.length_tail_le
  · split
    · exact s.length_tail_le
    · exact Nat.le_refl _
  · exact Nat.le_refl _

theorem length_takeEscape_le (s : Source) : (takeEscape s).2.chars.length ≤ s.chars.length := by
  unfold takeEscape
  split
  · exact Nat.le_refl _
  · split
    · exact Nat.le_trans (length_skipSpace_le _) (length_takeHex_le _ _ _)
    · split <;> exact s.length_tail_le

def takeNameAux (acc : List Char) (s : Source) : String × Source :=
  match _h : s.chars with
  | [] => (String.ofList acc.reverse, s)
  | c :: rest =>
    if isNameChar c then takeNameAux (c :: acc) s.tail
    else if c == '\x00' then takeNameAux (replacement :: acc) s.tail
    else if c == '\\' && !startsNewline rest then
      let e := takeEscape s.tail
      takeNameAux (e.1 :: acc) e.2
    else (String.ofList acc.reverse, s)
termination_by s.chars.length
decreasing_by
  · exact Source.length_tail_lt _h
  · exact Source.length_tail_lt _h
  · exact Nat.lt_of_le_of_lt (length_takeEscape_le _) (Source.length_tail_lt _h)

def takeName (s : Source) : String × Source := takeNameAux [] s

/-- A quoted string behind its opening quote. It ends with the same quote or with the text; a bare
newline breaks it off and stays unread. -/
def takeQuoted (quote : Char) (acc : List Char) (s : Source) : Token × Source :=
  match _h : s.chars with
  | [] => (.string (String.ofList acc.reverse), s)
  | c :: rest =>
    if c == quote then (.string (String.ofList acc.reverse), s.tail)
    else if isNewline c then (.badString (String.ofList acc.reverse), s)
    else if c == '\\' then
      if rest.isEmpty then (.string (String.ofList acc.reverse), s.tail)
      else if startsNewline rest then takeQuoted quote acc (skipSpace s.tail)
      else
        let e := takeEscape s.tail
        takeQuoted quote (e.1 :: acc) e.2
    else takeQuoted quote ((if c == '\x00' then replacement else c) :: acc) s.tail
termination_by s.chars.length
decreasing_by
  · exact Nat.lt_of_le_of_lt (length_skipSpace_le _) (Source.length_tail_lt _h)
  · exact Nat.lt_of_le_of_lt (length_takeEscape_le _) (Source.length_tail_lt _h)
  · exact Source.length_tail_lt _h

def takeComment (acc : List Char) (s : Source) : Token × Source :=
  match _h : s.chars with
  | [] => (.comment (String.ofList acc.reverse), s)
  | c :: rest =>
    if c == '*' && rest.head? == some '/' then (.comment (String.ofList acc.reverse), s.tail.tail)
    else takeComment (c :: acc) s.tail
termination_by s.chars.length
decreasing_by exact Source.length_tail_lt _h

def skipBadUrl (s : Source) : Source :=
  match _h : s.chars with
  | [] => s
  | c :: rest =>
    if c == ')' then s
    else if c == '\\' && (rest.head? == some ')' || rest.head? == some '\\') then
      skipBadUrl s.tail.tail
    else skipBadUrl s.tail
termination_by s.chars.length
decreasing_by
  · exact Nat.lt_of_le_of_lt s.tail.length_tail_le (Source.length_tail_lt _h)
  · exact Source.length_tail_lt _h

def takeBadUrl (start s : Source) : Token × Source :=
  let stop := skipBadUrl s
  let text := start.chars.take (start.chars.length - stop.chars.length)
  (.badUrl (String.ofList text), stop.tail)

def breaksUrl (c : Char) : Bool :=
  c == '"' || c == '\'' || c == '(' || c == '\x0b' || c == '\x7f' ||
    (c.toNat ≥ 1 && c.toNat ≤ 8) || (c.toNat ≥ 0x0e && c.toNat ≤ 0x1f)

def takeUrl (start : Source) (acc : List Char) (s : Source) : Token × Source :=
  match _h : s.chars with
  | [] => (.unquotedUrl (String.ofList acc.reverse), s)
  | c :: rest =>
    if c == ')' then (.unquotedUrl (String.ofList acc.reverse), s.tail)
    else if isSpace c then
      let after := (s.span isSpace).2
      match after.chars with
      | [] => (.unquotedUrl (String.ofList acc.reverse), after)
      | ')' :: _ => (.unquotedUrl (String.ofList acc.reverse), after.tail)
      | _ => takeBadUrl start after.tail
    else if breaksUrl c then takeBadUrl start s.tail
    else if c == '\\' then
      if startsNewline rest then takeBadUrl start s.tail
      else
        let e := takeEscape s.tail
        takeUrl start (e.1 :: acc) e.2
    else takeUrl start ((if c == '\x00' then replacement else c) :: acc) s.tail
termination_by s.chars.length
decreasing_by
  · exact Nat.lt_of_le_of_lt (length_takeEscape_le _) (Source.length_tail_lt _h)
  · exact Source.length_tail_lt _h

/-- What `url(` begins: an unquoted url, unless white space and a quote follow, which make it an
ordinary function. -/
def takeUrlFunction (name : String) (s : Source) : Token × Source :=
  let after := (s.span isSpace).2
  match after.chars with
  | '"' :: _ | '\'' :: _ => (.function name, s)
  | [] => (.unquotedUrl "", after)
  | ')' :: _ => (.unquotedUrl "", after.tail)
  | _ => takeUrl after [] after

def sameName (a b : String) : Bool :=
  a.toLower == b.toLower

def takeIdentLike (s : Source) : Token × Source :=
  let (name, rest) := takeName s
  match rest.chars with
  | '(' :: _ =>
    if sameName name "url" then takeUrlFunction name rest.tail else (.function name, rest.tail)
  | _ => (.ident name, rest)

def floatOfDigits (digits : List Char) : Float :=
  digits.foldl (fun v c ↦ v * 10.0 + (c.toNat - 48).toFloat) 0.0

def fractionOfDigits (digits : List Char) : Float :=
  (digits.foldl (fun (v, f) c ↦ (v + (c.toNat - 48).toFloat * f, f * 0.1)) (0.0, 0.1)).1

def clampWhole (n : Int) : Int :=
  if n > 2147483647 then 2147483647 else if n < -2147483648 then -2147483648 else n

def natOfDigits (digits : List Char) : Nat :=
  digits.foldl (fun v c ↦ v * 10 + (c.toNat - 48)) 0

def takeSign (s : Source) : Bool × Bool × Source :=
  match s.chars with
  | '-' :: _ => (true, true, s.tail)
  | '+' :: _ => (true, false, s.tail)
  | _ => (false, false, s)

def takeFraction (s : Source) : Option (List Char × Source) :=
  match s.chars with
  | '.' :: c :: _ => if c.isDigit then some (s.tail.span Char.isDigit) else none
  | _ => none

def startsExponent : List Char → Bool
  | e :: c :: rest =>
    (e == 'e' || e == 'E') &&
      (c.isDigit || ((c == '+' || c == '-') && (rest.head?.map Char.isDigit).getD false))
  | _ => false

def takeExponent (s : Source) : Option (Float × Source) :=
  if startsExponent s.chars then
    let (_, negative, afterSign) := takeSign s.tail
    let (digits, rest) := afterSign.span Char.isDigit
    let value := floatOfDigits digits
    some (if negative then -value else value, rest)
  else none

/-- A number, with the `%` or the unit behind it. Values are computed in binary64 and stored in
binary32; a percentage is stored divided by a hundred. -/
def takeNumeric (s : Source) : Token × Source :=
  let (signed, negative, s) := takeSign s
  let (digits, s) := s.span Char.isDigit
  let fraction := takeFraction s
  let s := (fraction.map Prod.snd).getD s
  let exponent := takeExponent s
  let s := (exponent.map Prod.snd).getD s
  let size := floatOfDigits digits + ((fraction.map (fractionOfDigits ·.1)).getD 0.0)
  let value := (if negative then -1.0 else 1.0) * size
  let value := match exponent with
    | some (e, _) => value * Float.pow 10.0 e
    | none => value
  let whole := if fraction.isNone && exponent.isNone then
      let n : Int := natOfDigits digits
      some (clampWhole (if negative then -n else n))
    else none
  match s.chars with
  | '%' :: _ => (.percentage ⟨signed, (value / 100.0).toFloat32.toBits, whole⟩, s.tail)
  | _ =>
    let num : Numeric := ⟨signed, value.toFloat32.toBits, whole⟩
    if startsIdent s.chars then
      let (unit, s) := takeName s
      (.dimension num unit, s)
    else (.number num, s)

def startsNumber : List Char → Bool
  | c :: rest =>
    let unsigned : List Char → Bool
      | d :: more => d.isDigit || (d == '.' && (more.head?.map Char.isDigit).getD false)
      | [] => false
    unsigned (c :: rest) || ((c == '+' || c == '-') && unsigned rest)
  | [] => false

def takeHash (s : Source) : Token × Source :=
  if startsIdent s.chars then
    let (name, rest) := takeName s
    (.idHash name, rest)
  else match s.chars with
    | c :: _ =>
      if c.isDigit || c == '-' then
        let (name, rest) := takeName s
        (.hash name, rest)
      else (.delim '#', s)
    | [] => (.delim '#', s)

def takeAt (s : Source) : Token × Source :=
  if startsIdent s.chars then
    let (name, rest) := takeName s
    (.atKeyword name, rest)
  else (.delim '@', s)

def takeMatch (c : Char) (token : Token) (s : Source) : Token × Source :=
  match s.chars with
  | '=' :: _ => (token, s.tail)
  | _ => (.delim c, s)

def Token.single? : Char → Option Token
  | '(' => some .openParen
  | ')' => some .closeParen
  | '[' => some .openSquare
  | ']' => some .closeSquare
  | '\x7b' => some .openCurly
  | '\x7d' => some .closeCurly
  | ',' => some .comma
  | ':' => some .colon
  | ';' => some .semicolon
  | _ => none

def Token.match? : Char → Option Token
  | '$' => some .suffixMatch
  | '*' => some .substringMatch
  | '^' => some .prefixMatch
  | '|' => some .dashMatch
  | '~' => some .includeMatch
  | _ => none

def Token.read (c : Char) (s : Source) : Token × Source :=
  if isSpace c then
    let (blank, rest) := s.span isSpace
    (.whiteSpace (String.ofList blank), rest)
  else if startsNumber s.chars then takeNumeric s
  else if s.startsWith ['-', '-', '>'] then (.cdc, s.drop 3)
  else if s.startsWith ['<', '!', '-', '-'] then (.cdo, s.drop 4)
  else if s.startsWith ['/', '*'] then takeComment [] (s.drop 2)
  else if startsIdent s.chars then takeIdentLike s
  else if c == '"' || c == '\'' then takeQuoted c [] s.tail
  else if c == '#' then takeHash s.tail
  else if c == '@' then takeAt s.tail
  else match Token.single? c, Token.match? c with
    | some token, _ => (token, s.tail)
    | none, some token => takeMatch c token s.tail
    | none, none => (.delim c, s.tail)

structure Lexeme where
  token : Token
  start : Pos
  stop : Pos
deriving Repr, Inhabited

/-- The tokens of a text, last first, and the place where the text ends. One character at least goes
into each token, so the length of the text bounds their number. -/
def lexemesAux : Nat → List Lexeme → Source → List Lexeme × Pos
  | 0, acc, s => (acc, s.pos)
  | n + 1, acc, s =>
    match s.chars with
    | [] => (acc, s.pos)
    | c :: _ =>
      let (token, rest) := Token.read c s
      lexemesAux n (⟨token, s.pos, rest.pos⟩ :: acc) rest

def lexemes (text : String) : List Lexeme × Pos :=
  let s := Source.ofString text
  let (reversed, stop) := lexemesAux s.chars.length [] s
  (reversed.reverse, stop)

end StyleTypings.Css
