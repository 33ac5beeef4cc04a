import StyleTypings.Pattern.Complaint

namespace StyleTypings.Pattern

inductive Flag where
  | caseInsensitive
  | multiLine
  | dotMatchesNewLine
  | swapGreed
  | unicode
  | crlf
  | ignoreSpace
deriving DecidableEq, Repr, Inhabited

structure FlagSet where
  on : List Flag
  off : List Flag
deriving DecidableEq, Repr, Inhabited

def FlagSet.state? (s : FlagSet) (f : Flag) : Option Bool :=
  if s.on.contains f then some true else if s.off.contains f then some false else none

inductive Assertion where
  | startLine
  | endLine
  | startText
  | endText
  | wordBoundary
  | notWordBoundary
  | wordStart
  | wordEnd
  | wordStartHalf
  | wordEndHalf
deriving DecidableEq, Repr, Inhabited

inductive LetterClass where
  | digit
  | space
  | word
deriving DecidableEq, Repr, Inhabited

/-- A class that a Unicode property defines, as it is asked for. -/
inductive PropertyQuery where
  | named (name : String)
  | valued (property value : String)
deriving DecidableEq, Repr, Inhabited

/-- A character, and whether it was written as a byte of two hexadecimal digits. -/
structure Literal where
  char : Char
  isByte : Bool
  span : Span
deriving DecidableEq, Repr, Inhabited

inductive SetOperator where
  | intersection
  | difference
  | symmetricDifference
deriving DecidableEq, Repr, Inhabited

inductive ClassItem where
  | empty
  | literal (l : Literal)
  | range (first last : Literal)
  | ascii (name : String) (negated : Bool) (span : Span)
  | property (query : PropertyQuery) (negated : Bool) (span : Span)
  | letter (kind : LetterClass) (negated : Bool) (span : Span)
  | bracketed (item : ClassItem) (negated : Bool) (span : Span)
  | union (items : List ClassItem) (span : Span)
  | operation (op : SetOperator) (left right : ClassItem) (span : Span)
deriving Repr, Inhabited

inductive Ast where
  | empty
  | flags (set : FlagSet)
  | literal (l : Literal)
  | dot (span : Span)
  | assertion (kind : Assertion)
  | property (query : PropertyQuery) (negated : Bool) (span : Span)
  | letter (kind : LetterClass) (negated : Bool) (span : Span)
  | bracketed (item : ClassItem) (negated : Bool) (span : Span)
  /-- From `least` to `most` times, or without an upper bound. -/
  | repetition (body : Ast) (least : Nat) (most : Option Nat) (span : Span)
  | group (body : Ast) (flags : Option FlagSet) (span : Span)
  | concat (parts : List Ast) (span : Span)
  | alternation (parts : List Ast) (span : Span)
deriving Repr, Inhabited

mutual

def ClassItem.tooDeep? : (room : Nat) → ClassItem → Option Span
  | room, .bracketed item _ span =>
    match room with
    | 0 => some span
    | room + 1 => item.tooDeep? room
  | room, .union items span =>
    match room with
    | 0 => some span
    | room + 1 => ClassItem.anyTooDeep? room items
  | room, .operation _ left right span =>
    match room with
    | 0 => some span
    | room + 1 => (left.tooDeep? room).or (right.tooDeep? room)
  | _, _ => none

def ClassItem.anyTooDeep? : (room : Nat) → List ClassItem → Option Span
  | _, [] => none
  | room, item :: rest => (item.tooDeep? room).or (ClassItem.anyTooDeep? room rest)

end

mutual

def Ast.tooDeep? : (room : Nat) → Ast → Option Span
  | room, .bracketed item _ span =>
    match room with
    | 0 => some span
    | room + 1 => item.tooDeep? room
  | room, .repetition body _ _ span =>
    match room with
    | 0 => some span
    | room + 1 => body.tooDeep? room
  | room, .group body _ span =>
    match room with
    | 0 => some span
    | room + 1 => body.tooDeep? room
  | room, .concat parts span =>
    match room with
    | 0 => some span
    | room + 1 => Ast.anyTooDeep? room parts
  | room, .alternation parts span =>
    match room with
    | 0 => some span
    | room + 1 => Ast.anyTooDeep? room parts
  | _, _ => none

def Ast.anyTooDeep? : (room : Nat) → List Ast → Option Span
  | _, [] => none
  | room, part :: rest => (part.tooDeep? room).or (Ast.anyTooDeep? room rest)

end

end StyleTypings.Pattern
