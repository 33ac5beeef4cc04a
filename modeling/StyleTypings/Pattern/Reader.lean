import StyleTypings.Pattern.Scanner
import StyleTypings.Unicode.Category

namespace StyleTypings.Pattern

open Scanner

namespace Reader

def asciiClassNames : List String := [
  "alnum", "alpha", "ascii", "blank", "cntrl", "digit", "graph", "lower", "print", "punct", "space",
  "upper", "word", "xdigit"]

def asciiClass? : Scanner (Option ClassItem) := do
  let saved ← get
  let start ← place
  if ← bumpIf "[:" then
    let negated ← bumpIf "^"
    let name := (← get).rest.takeWhile (· != ':')
    for _ in name do
      let _ ← bump
    if asciiClassNames.contains (String.ofList name) && (← bumpIf ":]") then
      return some (.ascii (String.ofList name) negated (← since start))
  set saved
  return none

def classPrimitive : Scanner Primitive := do
  if ← sees '\\' then escape
  else
    let span ← hereChar
    match ← peek? with
    | some c => do
      let _ ← bump
      return .literal ⟨c, false, span⟩
    | none => failAt span .classUnclosed

def classItem : Primitive → Scanner ClassItem
  | .literal l => return .literal l
  | .property q n s => return .property q n s
  | .letter k n s => return .letter k n s
  | p => failAt p.span .classEscapeInvalid

def boundary : Primitive → Scanner Literal
  | .literal l => return l
  | p => failAt p.span .classRangeLiteral

def classRange (opening : Span) : Scanner ClassItem := do
  let first ← classPrimitive
  bumpSpace
  if ← atEnd then failAt opening .classUnclosed
  let behind ← peekBehind?
  if !(← sees '-') || behind == some ']' || behind == some '-' then return ← classItem first
  if !(← bumpAndSpace) then failAt opening .classUnclosed
  let last ← classPrimitive
  let span : Span := ⟨first.span.start, last.span.stop⟩
  let a ← boundary first
  let b ← boundary last
  if b.char < a.char then failAt span .classRangeInvalid
  return .range a b

structure UnionDraft where
  items : List ClassItem
  start : Place

def UnionDraft.item (d : UnionDraft) (stop : Place) : ClassItem :=
  match d.items with
  | [] => .empty
  | [item] => item
  | items => .union items.reverse ⟨d.start, stop⟩

def applyPending (pending : Option (SetOperator × ClassItem × Place)) (right : ClassItem)
    (stop : Place) : ClassItem :=
  match pending with
  | some (op, left, start) => .operation op left right ⟨start, stop⟩
  | none => right

def leadingHyphens (start : Place) : (n : Nat) → List ClassItem → Scanner (List ClassItem)
  | 0, items => return items
  | n + 1, items => do
    if ← sees '-' then
      let l : ClassItem := .literal ⟨'-', false, ← hereChar⟩
      if !(← bumpAndSpace) then failAt ⟨start, start⟩ .classUnclosed
      leadingHyphens start n (l :: items)
    else return items

/-- What stands at the beginning of a class: whether it is negated, its first items, and the
stretch so far. -/
def classOpening : Scanner (Bool × UnionDraft × Span) := do
  let start ← place
  if !(← bumpAndSpace) then failAt (← since start) .classUnclosed
  let negated ← sees '^'
  if negated then
    if !(← bumpAndSpace) then failAt (← since start) .classUnclosed
  let unionStart ← place
  let items ← leadingHyphens start (← remaining) []
  let items ← if items.isEmpty && (← sees ']') then do
      let l : ClassItem := .literal ⟨']', false, ← hereChar⟩
      if !(← bumpAndSpace) then failAt (← since start) .classUnclosed
      pure [l]
    else pure items
  return (negated, ⟨items, unionStart⟩, ← since start)

def operator? : Scanner (Option SetOperator) := do
  if ← bumpIf "&&" then return some .intersection
  if ← bumpIf "--" then return some .difference
  if ← bumpIf "~~" then return some .symmetricDifference
  return none

mutual

def bracketed : (fuel : Nat) → Scanner (ClassItem × Bool × Span)
  | 0 => do failAt (← here) .classUnclosed
  | fuel + 1 => do
    let start ← place
    let (negated, draft, opening) ← classOpening
    let item ← classBody opening fuel draft none
    return (item, negated, ← since start)

def classBody (opening : Span) : (fuel : Nat) → UnionDraft →
    Option (SetOperator × ClassItem × Place) → Scanner ClassItem
  | 0, _, _ => failAt opening .classUnclosed
  | fuel + 1, draft, pending => do
    bumpSpace
    match ← peek? with
    | none => failAt opening .classUnclosed
    | some ']' => do
      let stop ← place
      let item := applyPending pending (draft.item stop) stop
      let _ ← bump
      return item
    | some '[' => do
      match ← asciiClass? with
      | some item => classBody opening fuel { draft with items := item :: draft.items } pending
      | none => do
        let (item, negated, span) ← bracketed fuel
        classBody opening fuel
          { draft with items := .bracketed item negated span :: draft.items } pending
    | some _ => do
      let stop ← place
      match ← operator? with
      | some op => do
        let left := applyPending pending (draft.item stop) stop
        classBody opening fuel ⟨[], ← place⟩ (some (op, left, opening.start))
      | none => do
        let item ← classRange opening
        classBody opening fuel { draft with items := item :: draft.items } pending

end

def Ast.isRepeatable : Ast → Bool
  | .empty | .flags _ => false
  | _ => true

/-- Takes the item that a repetition operator applies to off the items so far, which are in reverse
order. -/
def repeated (parts : List Ast) : Scanner (Ast × List Ast) := do
  match parts with
  | last :: rest =>
    if Ast.isRepeatable last then return (last, rest)
    else failAt (← here) .repetitionMissing
  | [] => failAt (← here) .repetitionMissing

def simpleRepetition (least : Nat) (most : Option Nat) (parts : List Ast) :
    Scanner (List Ast) := do
  let (body, rest) ← repeated parts
  let start ← place
  if ← bump then
    if ← sees '?' then
      let _ ← bump
  return .repetition body least most (← since start) :: rest

def countRange (start : Place) : Scanner (Nat × Option Nat) := do
  if !(← bumpAndSpace) then failAt (← since start) .countUnclosed
  let least ← decimal
  if ← atEnd then failAt (← since start) .countUnclosed
  if ← sees ',' then
    if !(← bumpAndSpace) then failAt (← since start) .countUnclosed
    if ← sees '\x7d' then return (← ofResult least, none)
    let least ← ofResult least
    return (least, some (← ofResult (← decimal)))
  else
    let n ← ofResult least
    return (n, some n)

def countedRepetition (parts : List Ast) : Scanner (List Ast) := do
  let (body, rest) ← repeated parts
  let start ← place
  let (least, most) ← countRange start
  if !(← sees '\x7d') then failAt (← since start) .countUnclosed
  if ← bumpAndSpace then
    if ← sees '?' then
      let _ ← bump
  if most.any (· < least) then failAt (← since start) .countInvalid
  return .repetition body least most (← since start) :: rest

def flag? : Char → Option Flag
  | 'i' => some .caseInsensitive
  | 'm' => some .multiLine
  | 's' => some .dotMatchesNewLine
  | 'U' => some .swapGreed
  | 'u' => some .unicode
  | 'R' => some .crlf
  | 'x' => some .ignoreSpace
  | _ => none

/-- The flags so far: each with its stretch, the place of the negation, and whether that came
last. -/
structure FlagDraft where
  seen : List (Flag × Bool × Span) := []
  negation : Option Span := none
  dangling : Option Span := none

def FlagDraft.set (d : FlagDraft) : FlagSet where
  on := (d.seen.filter fun f ↦ !f.2.1).map (·.1)
  off := (d.seen.filter fun f ↦ f.2.1).map (·.1)

/-- Flags up to a colon or a closing parenthesis, which is not read; at most `n` of them. -/
def flags : (n : Nat) → FlagDraft → Scanner FlagDraft
  | 0, d => return d
  | n + 1, d => do
    let span ← hereChar
    match ← peek? with
    | none => failAt span .flagEnd
    | some c =>
      if c == ':' || c == ')' then
        if let some s := d.dangling then failAt s .flagDanglingNegation
        return d
      let d ← if c == '-' then
          match d.negation with
          | some first => failAt span (.flagRepeatedNegation first)
          | none => pure { d with negation := some span, dangling := some span }
        else
          match flag? c with
          | none => failAt span .flagUnrecognized
          | some f =>
            match d.seen.find? (·.1 == f) with
            | some (_, _, first) => failAt span (.flagDuplicate first)
            | none =>
              pure { d with
                seen := d.seen ++ [(f, d.negation.isSome, span)]
                dangling := none }
      if !(← bump) then failAt (← here) .flagEnd
      flags n d

def isNameChar (first : Bool) (c : Char) : Bool :=
  if first then c == '_' || Unicode.isAlphabetic c
  else ['_', '.', '[', ']'].contains c || Unicode.isAlphabetic c || Unicode.isNumeric c

def nameChars : (n : Nat) → (first : Bool) → Scanner (List Char)
  | 0, _ => return []
  | n + 1, first => do
    match ← peek? with
    | none => return []
    | some c =>
      if c == '>' then return []
      if !isNameChar first c then failAt (← hereChar) .groupNameInvalid
      let _ ← bump
      return c :: (← nameChars n false)

def groupName : Scanner Unit := do
  if ← atEnd then failAt (← here) .groupNameUnclosed
  let start ← place
  let name := String.ofList (← nameChars (← remaining) true)
  let span ← since start
  if ← atEnd then failAt (← here) .groupNameUnclosed
  let _ ← bump
  if name.isEmpty then failAt ⟨start, start⟩ .groupNameEmpty
  match (← get).names.find? (·.1 == name) with
  | some (_, first) => failAt span (.groupNameDuplicate first)
  | none => modify fun c ↦ { c with names := (name, span) :: c.names }

inductive Opening where
  /-- Flags for the rest of the group around. -/
  | flags (set : FlagSet)
  | group (set : Option FlagSet)

def opening (span : Span) : Scanner Opening := do
  let _ ← bump
  bumpSpace
  for look in ["?=", "?!", "?<=", "?<!"] do
    if ← bumpIf look then failAt ⟨span.start, ← place⟩ .lookAround
  let inner ← here
  if (← bumpIf "?P<") || (← bumpIf "?<") then
    groupName
    return .group none
  if ← bumpIf "?" then
    if ← atEnd then failAt span .groupUnclosed
    let d ← flags ((← remaining) + 1) {}
    let ends ← sees ')'
    let _ ← bump
    if ends then
      if d.seen.isEmpty && d.negation.isNone then failAt inner .repetitionMissing
      return .flags d.set
    else return .group (some d.set)
  return .group none

def concatenation (start stop : Place) (parts : List Ast) : Ast :=
  match parts with
  | [] => .empty
  | [part] => part
  | parts => .concat parts.reverse ⟨start, stop⟩

def alternatives (start stop : Place) (earlier : List Ast) (last : Ast) : Ast :=
  match earlier with
  | [] => last
  | earlier => .alternation (last :: earlier).reverse ⟨start, stop⟩

mutual

/-- What stands in a group, up to its closing parenthesis, or the whole of a pattern. `outer` is the
stretch of the opening parenthesis; `start` is where the items begin, and `begin_` where the
alternatives do. -/
def sequence (outer : Option Span) (begin_ : Place) : (fuel : Nat) → (start : Place) →
    (parts earlier : List Ast) → Scanner Ast
  | 0, _, _, _ => do failAt (← here) .groupUnclosed
  | fuel + 1, start, parts, earlier => do
    bumpSpace
    let stop ← place
    let finished : Unit → Ast := fun () ↦
      alternatives begin_ stop earlier (concatenation start stop parts)
    match ← peek? with
    | none =>
      match outer with
      | some span => failAt span .groupUnclosed
      | none => return finished ()
    | some '(' => do
      let item ← group fuel
      sequence outer begin_ fuel start (item :: parts) earlier
    | some ')' =>
      match outer with
      | some _ => return finished ()
      | none => do failAt (← hereChar) .groupUnopened
    | some '|' => do
      let _ ← bump
      sequence outer begin_ fuel (← place) [] (concatenation start stop parts :: earlier)
    | some '[' => do
      let (item, negated, span) ← bracketed fuel
      sequence outer begin_ fuel start (.bracketed item negated span :: parts) earlier
    | some '?' => do
      sequence outer begin_ fuel start (← simpleRepetition 0 (some 1) parts) earlier
    | some '*' => do
      sequence outer begin_ fuel start (← simpleRepetition 0 none parts) earlier
    | some '+' => do
      sequence outer begin_ fuel start (← simpleRepetition 1 none parts) earlier
    | some '\x7b' => do
      sequence outer begin_ fuel start (← countedRepetition parts) earlier
    | some _ => do
      let p ← primitive
      sequence outer begin_ fuel start (p.ast :: parts) earlier

def group : (fuel : Nat) → Scanner Ast
  | 0 => do failAt (← here) .groupUnclosed
  | fuel + 1 => do
    let span ← hereChar
    match ← opening span with
    | .flags set => do
      if let some on := set.state? .ignoreSpace then
        modify fun c ↦ { c with ignoreSpace := on }
      return .flags set
    | .group set => do
      let outside := (← get).ignoreSpace
      let inside := (set.bind (·.state? .ignoreSpace)).getD outside
      modify fun c ↦ { c with ignoreSpace := inside }
      let start ← place
      let body ← sequence (some span) start fuel start [] []
      modify fun c ↦ { c with ignoreSpace := outside }
      let _ ← bump
      return .group body set (← since span.start)

end

def parse (pattern : String) : Except Complaint Ast := do
  let chars := pattern.toList
  let start : Cursor := ⟨chars, .start, false, []⟩
  let (ast, _) ← (sequence none .start (2 * chars.length + 2) .start [] []).run start
  match ast.tooDeep? nestingLimit with
  | some span => throw (.malformed .nestingTooDeep span)
  | none => return ast

end Reader
end StyleTypings.Pattern
