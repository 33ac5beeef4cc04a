import StyleTypings.Pattern.Ast
import StyleTypings.Pattern.Matcher

namespace StyleTypings.Pattern

/-- The switches that hold where a part of a pattern stands. -/
structure Flags where
  caseInsensitive : Bool := false
  multiLine : Bool := false
  dotMatchesNewLine : Bool := false
  unicode : Bool := true
  crlf : Bool := false
deriving DecidableEq, Repr, Inhabited

def Flags.apply (f : Flags) (s : FlagSet) : Flags where
  caseInsensitive := (s.state? .caseInsensitive).getD f.caseInsensitive
  multiLine := (s.state? .multiLine).getD f.multiLine
  dotMatchesNewLine := (s.state? .dotMatchesNewLine).getD f.dotMatchesNewLine
  unicode := (s.state? .unicode).getD f.unicode
  crlf := (s.state? .crlf).getD f.crlf

structure Sized where
  matcher : Matcher
  room : Nat
  takesText : Bool
deriving Repr, Inhabited

namespace Sized

def stateRoom : Nat := 32

def wayRoom : Nat := 4

def roomLimit : Nat := 10485760

def empty : Sized := ⟨.empty, stateRoom, false⟩

def look (l : Look) : Sized := ⟨.look l, stateRoom, false⟩

def char (c : Char) : Sized := ⟨.class (.single c), c.utf8Size * stateRoom, true⟩

def lastOfLength : List Nat := [0x7f, 0x7ff, 0xffff]

/-- About the room of the byte sequences of a range. It grows with every length of sequences beyond
the first. -/
def rangeRoom (r : Unicode.Range) : Nat :=
  let further := lastOfLength.countP fun n ↦ r.first ≤ n && n < r.last
  2 * stateRoom + 8 * stateRoom * further

def ofSet (s : CharSet) : Sized where
  matcher := .class s
  room := 2 * stateRoom +
    if s.isUpTo 127 then s.ranges.length * 2 * wayRoom
    else s.ranges.foldl (fun room r ↦ room + rangeRoom r) 0
  takesText := true

def concat : List Sized → Sized
  | [] => empty
  | [s] => s
  | s :: rest =>
    let t := concat rest
    ⟨.concat s.matcher t.matcher, s.room + t.room, s.takesText || t.takesText⟩

def either : List Sized → Sized
  | [] => empty
  | [s] => s
  | s :: rest =>
    let t := either rest
    ⟨.either s.matcher t.matcher, s.room + t.room + wayRoom, s.takesText || t.takesText⟩

def captured (s : Sized) : Sized := { s with room := s.room + 2 * stateRoom }

def repetitionRoom (body : Sized) (least : Nat) (most : Option Nat) : Nat :=
  let branch := stateRoom + 2 * wayRoom
  match most with
  | some n => least * body.room + (n - least) * (body.room + branch) + stateRoom
  | none => max least 1 * body.room + branch

/-- A repetition. Where no characters are taken up, one round is as good as many. -/
def repetition (body : Sized) (least : Nat) (most : Option Nat) : Sized where
  matcher := .repetition body.matcher least most
  room := if body.takesText then body.repetitionRoom least most
    else body.repetitionRoom (min least 1) (some (min (most.getD 1) 1))
  takesText := body.takesText && most != some 0

end Sized

abbrev Resolver := StateT Flags (Except Complaint)

namespace Lowering

def failAt {α : Type} (span : Span) (fault : Fault) : Resolver α := throw (.malformed fault span)

def lastByte : Nat := 255

/-- Closes a set under change of case if that is asked for, and then negates it if that is. A set
of bytes must not go beyond ASCII. -/
def foldAndNegate (span : Span) (negated : Bool) (s : CharSet) : Resolver CharSet := do
  let f ← get
  if f.unicode then
    let s := if f.caseInsensitive then s.fold else s
    return if negated then s.complement else s
  else
    let s := if f.caseInsensitive then s.foldAscii else s
    let s := if negated then s.complementUpTo lastByte else s
    if !s.isUpTo 127 then failAt span .invalidUtf8
    return s

def letterSet (unicode : Bool) : LetterClass → CharSet
  | .digit => if unicode then .digit else .ascii "digit"
  | .space => if unicode then .space else .ascii "space"
  | .word => if unicode then .word else .ascii "word"

def letter (kind : LetterClass) (negated : Bool) (span : Span) : Resolver CharSet := do
  let f ← get
  let s := letterSet f.unicode kind
  if f.unicode then return if negated then s.complement else s
  let s := if negated then s.complementUpTo lastByte else s
  if !s.isUpTo 127 then failAt span .invalidUtf8
  return s

def property (query : PropertyQuery) (negated : Bool) (span : Span) : Resolver CharSet := do
  if !(← get).unicode then failAt span .unicodeNotAllowed
  let s ← match query with
    | .named name =>
      match CharSet.named? name with
      | some s => pure s
      | none => failAt span .propertyNotFound
    | .valued p v =>
      match CharSet.valued p v with
      | .ok s => pure s
      | .error .property => failAt span .propertyNotFound
      | .error .value => failAt span .propertyValueNotFound
  foldAndNegate span negated s

/-- The character of a literal; without Unicode a byte beyond ASCII is none. -/
def literalChar (l : Literal) : Resolver Char := do
  if !(← get).unicode && l.isByte && l.char.toNat > 127 then failAt l.span .invalidUtf8
  return l.char

def classChar (l : Literal) : Resolver Char := do
  let c ← literalChar l
  if !(← get).unicode && c.toNat > 127 then failAt l.span .unicodeNotAllowed
  return c

mutual

def classItem : ClassItem → Resolver CharSet
  | .empty => return .empty
  | .literal l => return .single (← classChar l)
  | .range a b => do
    let first ← classChar a
    let last ← classChar b
    return .between first last
  | .ascii name negated span => foldAndNegate span negated (.ascii name)
  | .property query negated span => property query negated span
  | .letter kind negated span => letter kind negated span
  | .bracketed item negated span => do
    let s ← classItem item
    foldAndNegate span negated s
  | .union items _ => classItems items
  | .operation op left right _ => do
    let a ← classItem left
    let b ← classItem right
    let f ← get
    let fold (s : CharSet) : CharSet :=
      if f.caseInsensitive then if f.unicode then s.fold else s.foldAscii else s
    return match op with
      | .intersection => (fold a).intersection (fold b)
      | .difference => (fold a).difference (fold b)
      | .symmetricDifference => (fold a).symmetricDifference (fold b)

def classItems : List ClassItem → Resolver CharSet
  | [] => return .empty
  | item :: rest => do
    let a ← classItem item
    let b ← classItems rest
    return a.union b

end

def look (f : Flags) : Assertion → Look
  | .startLine => if f.multiLine then if f.crlf then .startLineCrlf else .startLine else .start
  | .endLine => if f.multiLine then if f.crlf then .endLineCrlf else .endLine else .stop
  | .startText => .start
  | .endText => .stop
  | .wordBoundary => .wordBoundary f.unicode
  | .notWordBoundary => .notWordBoundary f.unicode
  | .wordStart => .wordStart f.unicode
  | .wordEnd => .wordEnd f.unicode
  | .wordStartHalf => .wordStartHalf f.unicode
  | .wordEndHalf => .wordEndHalf f.unicode

def literal (l : Literal) : Resolver Sized := do
  let c ← literalChar l
  let f ← get
  if !f.caseInsensitive then return .char c
  let s := if f.unicode then (CharSet.single c).fold else (CharSet.single c).foldAscii
  return if s == .single c then .char c else .ofSet s

def dot (span : Span) : Resolver Sized := do
  let f ← get
  if !f.unicode then failAt span .invalidUtf8
  let ends : CharSet :=
    if f.dotMatchesNewLine then .empty
    else if f.crlf then (CharSet.single '\n').union (.single '\r')
    else .single '\n'
  return .ofSet ends.complement

mutual

def ast : Ast → Resolver Sized
  | .empty => return .empty
  | .flags s => do
    modify (·.apply s)
    return .empty
  | .literal l => literal l
  | .dot span => dot span
  | .assertion kind => return .look (look (← get) kind)
  | .property query negated span => return .ofSet (← property query negated span)
  | .letter kind negated span => return .ofSet (← letter kind negated span)
  | .bracketed item negated span => do
    let s ← classItem item
    return .ofSet (← foldAndNegate span negated s)
  | .repetition body least most _ => do
    return Sized.repetition (← ast body) least most
  | .group body changes _ => do
    let outside ← get
    if let some c := changes then modify (·.apply c)
    let inner ← ast body
    set outside
    return if changes.isSome then inner else inner.captured
  | .concat parts _ => return Sized.concat (← asts parts)
  | .alternation parts _ => return Sized.either (← asts parts)

def asts : List Ast → Resolver (List Sized)
  | [] => return []
  | part :: rest => do
    let first ← ast part
    return first :: (← asts rest)

end

end Lowering
end StyleTypings.Pattern
