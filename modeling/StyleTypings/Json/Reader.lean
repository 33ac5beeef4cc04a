import StyleTypings.Decimal.Shortest
import StyleTypings.Json.Complaint
import StyleTypings.Text.Quoted

namespace StyleTypings.Json

structure Source where
  place : Place
  rest : List Char
deriving Repr, Inhabited

def Source.ofString (text : String) : Source := ⟨.start, text.toList⟩

def Source.skipWhile (p : Char → Bool) : Place → List Char → Source
  | place, [] => ⟨place, []⟩
  | place, c :: rest => if p c then skipWhile p (place.past c) rest else ⟨place, c :: rest⟩

abbrev Reader := StateT Source (Except Complaint)

namespace Reader

def failHere {α : Type} (fault : Fault) : Reader α := do
  throw ⟨fault, (← get).place⟩

def failAhead {α : Type} (fault : Fault) : Reader α := do
  let s ← get
  match s.rest with
  | [] => throw ⟨fault, s.place⟩
  | c :: _ => throw ⟨fault, s.place.pastByte c⟩

def peek : Reader (Option Char) := return (← get).rest.head?

def advance : Reader Unit :=
  modify fun s ↦
    match s.rest with
    | [] => s
    | c :: rest => ⟨s.place.past c, rest⟩

/-- Reads the next character; only its first byte is behind the place of a complaint about it. -/
def next : Reader (Option (Char × Place)) := do
  let s ← get
  match s.rest with
  | [] => return none
  | c :: _ =>
    advance
    return some (c, s.place.pastByte c)

def skipBlank : Reader (Option Char) := do
  modify fun s ↦ Source.skipWhile (fun c ↦ c == ' ' || c == '\n' || c == '\t' || c == '\r')
    s.place s.rest
  peek

def word : List Char → Reader Unit
  | [] => return
  | expected :: rest => do
    match ← next with
    | none => failHere .endInValue
    | some (c, place) =>
      if c != expected then throw ⟨.wordExpected, place⟩
      word rest

def digits : Reader (List Nat) := do
  let s ← get
  set (Source.skipWhile Char.isDigit s.place s.rest)
  return (s.rest.takeWhile Char.isDigit).map fun c ↦ c.toNat - 48

inductive Number where
  | whole (n : Int)
  | float (bits : UInt64)
deriving DecidableEq, Repr, Inhabited

def greatestWhole : Nat := 18446744073709551615

def leastWhole : Int := -9223372036854775808

/-- Puts digits behind a number while it stays exact, and counts those that are used. -/
def extend (n : Nat) : List Nat → Nat × Nat
  | [] => (n, 0)
  | d :: rest =>
    if n * 10 + d > greatestWhole then (n, 0)
    else
      let (m, used) := extend (n * 10 + d) rest
      (m, used + 1)

def greatestPower : Nat := 308

def powerOfTen (n : Nat) : Float := Float.ofScientific 1 false n

def divideByPower (v : Float) : (steps power : Nat) → Float
  | 0, _ => v
  | steps + 1, power =>
    if power ≤ greatestPower then v / powerOfTen power
    else divideByPower (v / powerOfTen greatestPower) steps (power - greatestPower)

def scaled (negative : Bool) (n : Nat) (e : Int) : Reader Number := do
  let v := n.toUInt64.toFloat
  let size ←
    if n == 0 then pure v
    else if 0 ≤ e then
      if e ≤ greatestPower then
        let w := v * powerOfTen e.toNat
        if w.isInf then failHere .numberTooLarge
        pure w
      else failHere .numberTooLarge
    else pure (divideByPower v 4 (-e).toNat)
  return .float (if negative then -size else size).toBits

def greatestExponent : Nat := 2147483647

/-- Puts digits behind an exponent while it is not too large; `none` if it becomes so, with the
digits behind that one. -/
def exponentOf (n : Nat) : List Nat → Nat ⊕ List Nat
  | [] => .inl n
  | d :: rest =>
    if n * 10 + d > greatestExponent then .inr rest else exponentOf (n * 10 + d) rest

def behindDigits (count : Nat) : Reader Place := do
  let p := (← get).place
  return ⟨p.line, p.column - count⟩

def exponentPart (negative : Bool) (n : Nat) (e : Int) : Reader Number := do
  advance
  let positive ← match ← peek with
    | some '+' => do advance; pure true
    | some '-' => do advance; pure false
    | _ => pure true
  match ← next with
  | none => failHere .endInValue
  | some (c, place) =>
    if !c.isDigit then throw ⟨.malformedNumber, place⟩
    match exponentOf (c.toNat - 48) (← digits) with
    | .inl x => scaled negative n (if positive then e + x else e - x)
    | .inr unread =>
      if n != 0 && positive then throw ⟨.numberTooLarge, ← behindDigits unread.length⟩
      scaled negative 0 0

def exponentOrEnd (negative : Bool) (n : Nat) (e : Int) : Reader Number := do
  match ← peek with
  | some 'e' | some 'E' => exponentPart negative n e
  | _ => scaled negative n e

def fractionPart (negative : Bool) (n : Nat) (e : Int) : Reader Number := do
  advance
  let ds ← digits
  if ds.isEmpty then
    match ← peek with
    | some _ => failAhead .malformedNumber
    | none => failAhead .endInValue
  let (m, used) := extend n ds
  exponentOrEnd negative m (e - used)

def number (negative : Bool) : Reader Number := do
  match ← next with
  | none => failHere .endInValue
  | some (c, place) =>
    if !c.isDigit then throw ⟨.malformedNumber, place⟩
    if c == '0' then
      if (← peek).any Char.isDigit then failAhead .malformedNumber
    let ds := (c.toNat - 48) :: (← digits)
    let (n, used) := extend 0 ds
    let dropped := ds.length - used
    match ← peek with
    | some '.' => fractionPart negative n dropped
    | some 'e' | some 'E' => exponentPart negative n dropped
    | _ =>
      if dropped > 0 then scaled negative n dropped
      else if !negative then return .whole n
      else if n == 0 || -(n : Int) < leastWhole then scaled true n 0
      else return .whole (-n)

def Number.describe : Number → String
  | .whole n => "integer `" ++ toString n ++ "`"
  | .float bits => "floating point `" ++ Decimal.binary64Text bits ++ "`"

/-- Goes past a number of any size; a minus sign has been read already. -/
def skipNumber : Reader Unit := do
  let failBehind (c : Option (Char × Place)) : Reader Unit :=
    match c with
    | some (_, place) => throw ⟨.malformedNumber, place⟩
    | none => failHere .malformedNumber
  match ← next with
  | some ('0', _) => if (← peek).any Char.isDigit then failAhead .malformedNumber
  | some (c, place) => if c.isDigit then discard digits else throw ⟨.malformedNumber, place⟩
  | none => failHere .malformedNumber
  if (← peek) == some '.' then
    advance
    if (← digits).isEmpty then failAhead .malformedNumber
  match ← peek with
  | some 'e' | some 'E' =>
    advance
    match ← peek with
    | some '+' | some '-' => advance
    | _ => pure ()
    match ← next with
    | some (c, place) => if c.isDigit then discard digits else throw ⟨.malformedNumber, place⟩
    | none => failBehind none
  | _ => return

def hexValue? (c : Char) : Option Nat :=
  if c.isDigit then some (c.toNat - 48)
  else if 'a' ≤ c && c ≤ 'f' then some (c.toNat - 87)
  else if 'A' ≤ c && c ≤ 'F' then some (c.toNat - 55)
  else none

def hexValueOf (cs : List Char) : Option Nat :=
  cs.foldlM (fun n c ↦ (hexValue? c).map (n * 16 + ·)) 0

/-- Reads the four digits of a hexadecimal escape. Whatever stands there, four bytes are taken. -/
def hexDigits : Reader Nat := do
  let s ← get
  let four := s.rest.take 4
  if four.length == 4 && four.all (hexValue? · |>.isSome) then
    set (⟨⟨s.place.line, s.place.column + 4⟩, s.rest.drop 4⟩ : Source)
    return (hexValueOf four).getD 0
  else if (String.ofList s.rest).utf8ByteSize < 4 then
    throw ⟨.endInString, s.place.pastBytes 4 s.rest⟩
  else throw ⟨.malformedEscape, s.place.pastBytes 4 s.rest⟩

def peekInString : Reader Char := do
  match ← peek with
  | some c => return c
  | none => failHere .endInString

def betweenSurrogates (expected : Char) : Reader Unit := do
  let c ← peekInString
  if c == expected then advance else failAhead .hexEscapeCutOff

/-- Reads what follows `\u`: one escape, or two that are a surrogate pair. -/
def unicodeEscape : Reader Char := do
  let high ← hexDigits
  if 0xdc00 ≤ high && high ≤ 0xdfff then failHere .loneSurrogate
  if high < 0xd800 || 0xdbff < high then return Char.ofNat high
  betweenSurrogates '\\'
  betweenSurrogates 'u'
  let low ← hexDigits
  if low < 0xdc00 || 0xdfff < low then failHere .loneSurrogate
  return Char.ofNat (0x10000 + (high - 0xd800) * 0x400 + (low - 0xdc00))

def shortEscape? : Char → Option Char
  | '"' => some '"'
  | '\\' => some '\\'
  | '/' => some '/'
  | 'b' => some '\x08'
  | 'f' => some '\x0c'
  | 'n' => some '\n'
  | 'r' => some '\r'
  | 't' => some '\t'
  | _ => none

def escape : Reader Char := do
  match ← next with
  | none => failHere .endInString
  | some ('u', _) => unicodeEscape
  | some (c, place) =>
    match shortEscape? c with
    | some e => return e
    | none => throw ⟨.malformedEscape, place⟩

/-- Reads the rest of a string; `done` holds its characters so far, last one first. -/
def stringFrom : (fuel : Nat) → (done : List Char) → Reader String
  | 0, _ => failHere .endInString
  | fuel + 1, done => do
    match ← next with
    | none => failHere .endInString
    | some ('"', _) => return String.ofList done.reverse
    | some ('\\', _) => stringFrom fuel ((← escape) :: done)
    | some (c, place) =>
      if c.toNat < 0x20 then throw ⟨.controlCharacter, place⟩
      stringFrom fuel (c :: done)

def string : Reader String := do stringFrom ((← get).rest.length + 1) []

def skipEscape : Reader Unit := do
  match ← next with
  | none => failHere .endInString
  | some ('u', _) => discard hexDigits
  | some (c, place) =>
    if (shortEscape? c).isNone then throw ⟨.malformedEscape, place⟩

def skipStringFrom : (fuel : Nat) → Reader Unit
  | 0 => failHere .endInString
  | fuel + 1 => do
    match ← peek with
    | none => failHere .endInString
    | some '"' => advance
    | some '\\' => do
      advance
      skipEscape
      skipStringFrom fuel
    | some c => do
      if c.toNat < 0x20 then failHere .controlCharacter
      advance
      skipStringFrom fuel

def skipString : Reader Unit := do skipStringFrom ((← get).rest.length + 1)

inductive Enclosure where
  | list
  | object
deriving DecidableEq, Repr, Inhabited

namespace Enclosure

def endFault : Enclosure → Fault
  | .list => .endInList
  | .object => .endInObject

def commaFault : Enclosure → Fault
  | .list => .commaOrBracketExpected
  | .object => .commaOrBraceExpected

def close : Enclosure → Char
  | .list => ']'
  | .object => '\x7d'

end Enclosure

def skipKey : Reader Unit := do
  match ← skipBlank with
  | some '"' => advance
  | some _ => failAhead .keyNotString
  | none => failAhead .endInObject
  skipString
  match ← skipBlank with
  | some ':' => advance
  | some _ => failAhead .colonExpected
  | none => failAhead .endInObject

/-- Closes what ends here, innermost first, up to the next value; `afterValue` says whether one
stands in front. The answer is what encloses the next value. -/
def skipClosings : (afterValue : Bool) → List Enclosure → Reader (List Enclosure)
  | _, [] => return []
  | afterValue, inner :: outer => do
    match ← skipBlank with
    | none => failAhead inner.endFault
    | some c =>
      if afterValue && c == ',' then
        advance
        if inner == .object then skipKey
        return inner :: outer
      else if c == inner.close then
        advance
        skipClosings true outer
      else if afterValue then failAhead inner.commaFault
      else
        if inner == .object then skipKey
        return inner :: outer

def skipOpening : Reader (Option Enclosure) := do
  match ← skipBlank with
  | none => failAhead .endInValue
  | some c =>
    if c == 'n' then advance; word "ull".toList; return none
    else if c == 't' then advance; word "rue".toList; return none
    else if c == 'f' then advance; word "alse".toList; return none
    else if c == '-' then advance; skipNumber; return none
    else if c.isDigit then skipNumber; return none
    else if c == '"' then advance; skipString; return none
    else if c == '[' then advance; return some .list
    else if c == '\x7b' then advance; return some .object
    else failAhead .valueExpected

def skipValueFrom : (fuel : Nat) → List Enclosure → Reader Unit
  | 0, _ => failAhead .valueExpected
  | fuel + 1, enclosures => do
    let later ← match ← skipOpening with
      | some e => skipClosings false (e :: enclosures)
      | none => skipClosings true enclosures
    if !later.isEmpty then skipValueFrom fuel later

def skipValue : Reader Unit := do skipValueFrom ((← get).rest.length + 1) []

def failKind {α : Type} (wanted : String) : Reader α := do
  let wrong (found : String) : Reader α := failHere (.wrongKind found wanted)
  match ← peek with
  | none => failAhead .valueExpected
  | some c =>
    if c == 'n' then advance; word "ull".toList; wrong "null"
    else if c == 't' then advance; word "rue".toList; wrong "boolean `true`"
    else if c == 'f' then advance; word "alse".toList; wrong "boolean `false`"
    else if c == '-' then advance; wrong (← number true).describe
    else if c.isDigit then wrong (← number false).describe
    else if c == '"' then advance; wrong ("string " ++ Text.quoted (← string))
    else if c == '[' then wrong "sequence"
    else if c == '\x7b' then wrong "map"
    else failAhead .valueExpected

def text (wanted : String) : Reader String := do
  match ← skipBlank with
  | none => failAhead .endInValue
  | some '"' => do
    advance
    string
  | some _ => failKind wanted

def optionalText (wanted : String) : Reader (Option String) := do
  match ← skipBlank with
  | some 'n' => do
    advance
    word "ull".toList
    return none
  | _ => return some (← text wanted)

def bool (wanted : String) : Reader Bool := do
  match ← skipBlank with
  | none => failAhead .endInValue
  | some 't' => do
    advance
    word "rue".toList
    return true
  | some 'f' => do
    advance
    word "alse".toList
    return false
  | some _ => failKind wanted

def listGoesOn (first : Bool) : Reader Bool := do
  match ← skipBlank with
  | none => failAhead .endInList
  | some ']' => return false
  | some c =>
    if first then return true
    if c != ',' then failAhead .commaOrBracketExpected
    advance
    match ← skipBlank with
    | some ']' => failAhead .trailingComma
    | some _ => return true
    | none => failAhead .endInValue

def listEnd : Reader Unit := do
  match ← skipBlank with
  | some ']' => advance
  | some ',' => do
    advance
    match ← skipBlank with
    | some ']' => failAhead .trailingComma
    | _ => failAhead .trailingCharacters
  | some _ => failAhead .trailingCharacters
  | none => failAhead .endInList

def nextKey (first : Bool) : Reader (Option String) := do
  match ← skipBlank with
  | none => failAhead .endInObject
  | some '\x7d' => return none
  | some c =>
    if first then
      if c != '"' then failAhead .keyNotString
    else
      if c != ',' then failAhead .commaOrBraceExpected
      advance
      match ← skipBlank with
      | some '"' => pure ()
      | some '\x7d' => failAhead .trailingComma
      | some _ => failAhead .keyNotString
      | none => failAhead .endInValue
    advance
    return some (← string)

def colon : Reader Unit := do
  match ← skipBlank with
  | some ':' => advance
  | some _ => failAhead .colonExpected
  | none => failAhead .endInObject

/-- Complains about a key that was just read for the second time. The place is where the object
would end, if it ends there. -/
def failRepeated {α : Type} (key : String) : Reader α := do
  if (← skipBlank) == some '\x7d' then advance
  failHere (.repeatedKey key)

def textEnd : Reader Unit := do
  if (← skipBlank).isSome then failAhead .trailingCharacters

end Reader
end StyleTypings.Json
