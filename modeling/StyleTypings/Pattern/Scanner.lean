import StyleTypings.Pattern.Ast
import StyleTypings.Text.Blank

namespace StyleTypings.Pattern

structure Cursor where
  rest : List Char
  place : Place
  ignoreSpace : Bool := false
  names : List (String × Span) := []
deriving Repr, Inhabited

abbrev Scanner := StateT Cursor (Except Complaint)

namespace Scanner

variable {α : Type}

def failAt (span : Span) (fault : Fault) : Scanner α := throw (.malformed fault span)

def place : Scanner Place := return (← get).place

def peek? : Scanner (Option Char) := return (← get).rest.head?

def sees (c : Char) : Scanner Bool := return (← peek?) == some c

def atEnd : Scanner Bool := return (← get).rest.isEmpty

def here : Scanner Span := do
  let p ← place
  return ⟨p, p⟩

def hereChar : Scanner Span := do
  let c ← get
  match c.rest with
  | ch :: _ => return ⟨c.place, c.place.step ch⟩
  | [] => return ⟨c.place, c.place⟩

def since (start : Place) : Scanner Span := return ⟨start, ← place⟩

/-- Passes over the next character; gives whether another one follows. -/
def bump : Scanner Bool := do
  let c ← get
  match c.rest with
  | ch :: rest =>
    set { c with rest := rest, place := c.place.step ch }
    return !rest.isEmpty
  | [] => return false

def bumpIf (text : String) : Scanner Bool := do
  if text.toList.isPrefixOf (← get).rest then
    for _ in text.toList do
      let _ ← bump
    return true
  return false

def skipComments : (inComment : Bool) → List Char → Place → List Char × Place
  | _, [], p => ([], p)
  | true, c :: rest, p => skipComments (c != '\n') rest (p.step c)
  | false, c :: rest, p =>
    if Text.isBlank c then skipComments false rest (p.step c)
    else if c == '#' then skipComments true rest (p.step c)
    else (c :: rest, p)

def bumpSpace : Scanner Unit :=
  modify fun c ↦
    if c.ignoreSpace then
      let (rest, place) := skipComments false c.rest c.place
      { c with rest := rest, place := place }
    else c

/-- Passes over the next character and what means nothing behind it; gives whether anything is
left. -/
def bumpAndSpace : Scanner Bool := do
  if !(← bump) then return false
  bumpSpace
  return !(← atEnd)

def skipWhite : Scanner Unit :=
  modify fun c ↦
    let front := c.rest.takeWhile Text.isBlank
    { c with rest := c.rest.drop front.length, place := front.foldl Place.step c.place }

def firstMeaningful (inComment : Bool) : List Char → Option Char
  | [] => none
  | c :: rest =>
    if Text.isBlank c then firstMeaningful inComment rest
    else if !inComment && c == '#' then firstMeaningful true rest
    else some c

def peekBehind? : Scanner (Option Char) := do
  let c ← get
  let behind := c.rest.drop 1
  return if c.ignoreSpace then firstMeaningful false behind else behind.head?

/-- The characters up to the first that does not satisfy `f`, with white space between them where
it means nothing; at most `n` of them. -/
def takeSpaced (f : Char → Bool) : (n : Nat) → Scanner (List Char)
  | 0 => return []
  | n + 1 => do
    match ← peek? with
    | some c =>
      if f c then
        let _ ← bumpAndSpace
        return c :: (← takeSpaced f n)
      else return []
    | none => return []

def remaining : Scanner Nat := return (← get).rest.length

def decimalValue (digits : List Char) : Nat :=
  digits.foldl (fun n c ↦ n * 10 + (c.toNat - 48)) 0

def decimal : Scanner (Except Complaint Nat) := do
  skipWhite
  let start ← place
  let digits ← takeSpaced Char.isDigit (← remaining)
  let span ← since start
  skipWhite
  if digits.isEmpty then return .error (.malformed .countEmpty span)
  let n := decimalValue digits
  if n < 4294967296 then return .ok n
  return .error (.malformed .decimalInvalid span)

def ofResult : Except Complaint α → Scanner α
  | .ok a => return a
  | .error e => throw e

def hexDigit? (c : Char) : Option Nat :=
  if c.isDigit then some (c.toNat - 48)
  else if 'a' ≤ c && c ≤ 'f' then some (c.toNat - 87)
  else if 'A' ≤ c && c ≤ 'F' then some (c.toNat - 55)
  else none

def scalar? (n : Nat) : Option Char :=
  if h : n.isValidChar then some (Char.ofNatAux n h) else none

def hexFixed : (n : Nat) → (value : Nat) → Scanner Nat
  | 0, value => return value
  | n + 1, value => do
    match (← peek?).bind hexDigit? with
    | none => failAt (← hereChar) .hexDigit
    | some d =>
      if n == 0 then
        let _ ← bumpAndSpace
        return value * 16 + d
      else if !(← bumpAndSpace) then failAt (← here) .escapeEnd
      else hexFixed n (value * 16 + d)

/-- Digits to base sixteen up to a closing brace, at most `n` of them; the value of none is
nothing. -/
def hexBraced : (n : Nat) → Option Nat → Scanner (Option Nat)
  | 0, value => return value
  | n + 1, value => do
    if !(← bumpAndSpace) then return value
    match ← peek? with
    | some '\x7d' => return value
    | some c =>
      match hexDigit? c with
      | none => failAt (← hereChar) .hexDigit
      | some d => hexBraced n (some (value.getD 0 * 16 + d))
    | none => return value

def hexEscape (start : Place) : Scanner Literal := do
  let kind ← peek?
  if !(← bumpAndSpace) then failAt (← here) .escapeEnd
  if ← sees '\x7b' then
    let brace ← place
    let inner := (← hereChar).stop
    let value ← hexBraced ((← remaining) + 1) none
    if ← atEnd then failAt (← since brace) .escapeEnd
    let stop ← place
    let _ ← bumpAndSpace
    match value with
    | none => failAt (← since brace) .hexEmpty
    | some n =>
      match scalar? n with
      | none => failAt ⟨inner, stop⟩ .hexInvalid
      | some c => return ⟨c, false, ← since start⟩
  else
    let digits := match kind with
      | some 'x' => 2
      | some 'u' => 4
      | _ => 8
    let inner ← place
    let n ← hexFixed digits 0
    match scalar? n with
    | none => failAt (← since inner) .hexInvalid
    | some c => return ⟨c, kind == some 'x', ← since start⟩

def isMeta (c : Char) : Bool :=
  ['\\', '.', '+', '*', '?', '(', ')', '|', '[', ']', '\x7b', '\x7d', '^', '$', '#', '&', '-',
    '~'].contains c

/-- Other characters that a backslash may stand in front of without changing them. -/
def isEscapable (c : Char) : Bool :=
  c.toNat < 0x80 && !c.isAlphanum && c != '<' && c != '>'

inductive Primitive where
  | literal (l : Literal)
  | dot (span : Span)
  | assertion (kind : Assertion) (span : Span)
  | property (query : PropertyQuery) (negated : Bool) (span : Span)
  | letter (kind : LetterClass) (negated : Bool) (span : Span)
deriving Inhabited

def Primitive.span : Primitive → Span
  | .literal l => l.span
  | .dot s | .assertion _ s | .property _ _ s | .letter _ _ s => s

def Primitive.ast : Primitive → Ast
  | .literal l => .literal l
  | .dot s => .dot s
  | .assertion kind _ => .assertion kind
  | .property q n s => .property q n s
  | .letter k n s => .letter k n s

def splitAt? (separator : List Char) : List Char → Option (List Char × List Char)
  | [] => none
  | c :: rest =>
    if separator.isPrefixOf (c :: rest) then some ([], (c :: rest).drop separator.length)
    else (splitAt? separator rest).map fun (a, b) ↦ (c :: a, b)

/-- The query that stands in braces. All three signs between a property and a value mean the
same. -/
def PropertyQuery.ofText (text : List Char) : PropertyQuery :=
  match splitAt? ['!', '='] text, splitAt? [':'] text, splitAt? ['='] text with
  | some (p, v), _, _ => .valued (String.ofList p) (String.ofList v)
  | none, some (p, v), _ => .valued (String.ofList p) (String.ofList v)
  | none, none, some (p, v) => .valued (String.ofList p) (String.ofList v)
  | none, none, none => .named (String.ofList text)

def untilBrace : (n : Nat) → Scanner (List Char)
  | 0 => return []
  | n + 1 => do
    if !(← bumpAndSpace) then return []
    match ← peek? with
    | some '\x7d' => return []
    | some c => return c :: (← untilBrace n)
    | none => return []

def propertyClass (start : Place) : Scanner Primitive := do
  let negated ← sees 'P'
  if !(← bumpAndSpace) then failAt (← here) .escapeEnd
  if ← sees '\x7b' then
    let text ← untilBrace ((← remaining) + 1)
    if ← atEnd then failAt (← here) .escapeEnd
    let _ ← bump
    return .property (PropertyQuery.ofText text) negated (← since start)
  else
    match ← peek? with
    | some c =>
      if c == '\\' then failAt (← hereChar) .classNameInvalid
      let _ ← bumpAndSpace
      return .property (.named (String.singleton c)) negated (← since start)
    | none => failAt (← here) .escapeEnd

/-- The assertions that stand in braces behind `\b`, which was read up to `start`; nothing if the
braces hold something else. -/
def namedBoundary? (start : Place) : Scanner (Option Assertion) := do
  let saved ← get
  let brace ← place
  if !(← bumpAndSpace) then failAt (← since start) .wordBoundaryEnd
  let inner ← place
  let isNameChar (c : Char) : Bool := c.isAlpha || c == '-'
  if !(← peek?).any isNameChar then
    set saved
    return none
  let name ← takeSpaced isNameChar (← remaining)
  if !(← sees '\x7d') then failAt (← since brace) .wordBoundaryUnclosed
  let stop ← place
  let _ ← bump
  match String.ofList name with
  | "start" => return some .wordStart
  | "end" => return some .wordEnd
  | "start-half" => return some .wordStartHalf
  | "end-half" => return some .wordEndHalf
  | _ => failAt ⟨inner, stop⟩ .wordBoundaryUnrecognized

def controlLetter? (c : Char) : Option Char :=
  match c with
  | 'a' => some '\x07'
  | 'f' => some '\x0c'
  | 't' => some '\t'
  | 'n' => some '\n'
  | 'r' => some '\r'
  | 'v' => some '\x0b'
  | _ => none

def classLetter? (c : Char) : Option (LetterClass × Bool) :=
  match c with
  | 'd' => some (.digit, false)
  | 'D' => some (.digit, true)
  | 's' => some (.space, false)
  | 'S' => some (.space, true)
  | 'w' => some (.word, false)
  | 'W' => some (.word, true)
  | _ => none

def assertionLetter? (c : Char) : Option Assertion :=
  match c with
  | 'A' => some .startText
  | 'z' => some .endText
  | 'b' => some .wordBoundary
  | 'B' => some .notWordBoundary
  | '<' => some .wordStart
  | '>' => some .wordEnd
  | _ => none

def escape : Scanner Primitive := do
  let start ← place
  let _ ← bump
  match ← peek? with
  | none => failAt (← since start) .escapeEnd
  | some c =>
    if c.isDigit then failAt ⟨start, (← hereChar).stop⟩ .backreference
    if ['x', 'u', 'U'].contains c then return .literal (← hexEscape start)
    if c == 'p' || c == 'P' then return ← propertyClass start
    let _ ← bump
    let span ← since start
    if isMeta c || isEscapable c then return .literal ⟨c, false, span⟩
    match classLetter? c, controlLetter? c, assertionLetter? c with
    | some (kind, negated), _, _ => return .letter kind negated span
    | none, some d, _ => return .literal ⟨d, false, span⟩
    | none, none, some a =>
      if c == 'b' && (← sees '\x7b') then
        if let some named ← namedBoundary? start then
          return .assertion named (← since start)
      return .assertion a span
    | none, none, none => failAt span .escapeUnrecognized

def primitive : Scanner Primitive := do
  let span ← hereChar
  match ← peek? with
  | none => failAt span .escapeEnd
  | some c =>
    if c == '\\' then return ← escape
    let _ ← bump
    match c with
    | '.' => return .dot span
    | '^' => return .assertion .startLine span
    | '$' => return .assertion .endLine span
    | _ => return .literal ⟨c, false, span⟩

end Scanner
end StyleTypings.Pattern
