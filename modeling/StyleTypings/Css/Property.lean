import StyleTypings.Css.Image
import StyleTypings.Css.Transform

namespace StyleTypings.Css

open Reader

inductive ValueKind where
  | length
  | number
  | percentage
  | lengthPercentage
  | string
  | color
  | image
  | url
  | integer
  | angle
  | time
  | resolution
  | transformFunction
  | transformList
  | customIdent
  | literal (name : String)
deriving DecidableEq, Repr, Inhabited

/-- How often a value of a syntax may stand. -/
inductive Multiplier where
  | once
  | spaced
  | commas
deriving DecidableEq, Repr, Inhabited

/-- What a registered property takes: anything, or one of some alternatives. -/
inductive ValueSyntax where
  | universal
  | alternatives (list : List (ValueKind × Multiplier))
deriving Repr, Inhabited

namespace ValueSyntax

def kindNamed? (name : String) : Option ValueKind :=
  match name.toLower with
  | "length" => some .length
  | "number" => some .number
  | "percentage" => some .percentage
  | "length-percentage" => some .lengthPercentage
  | "string" => some .string
  | "color" => some .color
  | "image" => some .image
  | "url" => some .url
  | "integer" => some .integer
  | "angle" => some .angle
  | "time" => some .time
  | "resolution" => some .resolution
  | "transform-function" => some .transformFunction
  | "transform-list" => some .transformList
  | "custom-ident" => some .customIdent
  | _ => none

def isGap (c : Char) : Bool := c == ' ' || c == '\t'

def startsKeyword (c : Char) : Bool := c.isAlpha || c == '_' || c.toNat ≥ 0x80

def inKeyword (c : Char) : Bool := startsKeyword c || c.isDigit || c == '-'

def takeKind (text : List Char) : Option (ValueKind × List Char) :=
  match text with
  | '<' :: rest =>
    let (name, rest) := rest.span (· != '>')
    match rest, kindNamed? (String.ofList name) with
    | '>' :: rest, some kind => some (kind, rest)
    | _, _ => none
  | c :: _ =>
    if startsKeyword c then
      let (name, rest) := text.span inKeyword
      some (.literal (String.ofList name), rest)
    else none
  | [] => none

def takeMultiplier (kind : ValueKind) (text : List Char) : Multiplier × List Char :=
  match kind, text with
  | .transformList, rest => (.once, rest)
  | _, '+' :: rest => (.spaced, rest)
  | _, '#' :: rest => (.commas, rest)
  | _, rest => (.once, rest)

def takeAlternatives : (fuel : Nat) → List Char → Option (List (ValueKind × Multiplier))
  | 0, _ => none
  | fuel + 1, text => do
    let (kind, rest) ← takeKind (text.dropWhile isGap)
    let (multiplier, rest) := takeMultiplier kind rest
    match rest.dropWhile isGap with
    | [] => return [(kind, multiplier)]
    | '|' :: rest => return (kind, multiplier) :: (← takeAlternatives fuel rest)
    | _ => none

def ofString? (text : String) : Option ValueSyntax :=
  let chars := ((text.toList.dropWhile isGap).reverse.dropWhile isGap).reverse
  if chars == ['*'] then some .universal
  else (takeAlternatives (chars.length + 1) chars).map .alternatives

end ValueSyntax

namespace ValueKind

def reader : ValueKind → Reader Unit
  | .length => Quantity.length
  | .number => do
    let _ ← Quantity.number
  | .percentage => do
    let _ ← Quantity.percentage
  | .lengthPercentage => Quantity.lengthPercentage
  | .string => do
    let _ ← Reader.string
  | .color => Color.reader
  | .image => Image.reader
  | .url => do
    let _ ← Reader.url
  | .integer => do
    let _ ← Css.integer
  | .angle => do
    let _ ← Quantity.angle
  | .time => do
    let _ ← Quantity.time
  | .resolution => Quantity.resolution
  | .transformFunction => Transform.reader
  | .transformList => Transform.list
  | .customIdent => do
    let _ ← Css.customIdent
  | .literal name => do
    let _ ← expect fun | .ident n => if n == name then some () else none | _ => none

end ValueKind

namespace ValueSyntax

def spaced (kind : ValueKind) : (n : Nat) → Reader Bool
  | 0 => return false
  | n + 1 => do
    if !(← accepts kind.reader) then return false
    if ← isExhausted then return true
    spaced kind n

def commaed (kind : ValueKind) : (n : Nat) → Reader Bool
  | 0 => return false
  | n + 1 => do
    if !(← accepts kind.reader) then return false
    match ← next? with
    | none => return true
    | some c => if c.token == .comma then commaed kind n else return false

def alternative (kind : ValueKind) (multiplier : Multiplier) : Reader Bool := do
  let n := (← get).items.length + 1
  match multiplier with
  | .once => accepts kind.reader
  | .spaced => spaced kind n
  | .commas => commaed kind n

def readValue : ValueSyntax → Reader Unit
  | .universal => value valueDepth
  | .alternatives list => do
    let start ← get
    for (kind, multiplier) in list do
      if ← alternative kind multiplier then return
      set start
    let c ← next
    fail (.unexpectedToken c.token)

end ValueSyntax

structure Registration where
  valueSyntax : Option ValueSyntax := none
  inherits : Bool := false
  initialValue : Option (List Component) := none
deriving Inhabited

def Registration.declare (name : String) (r : Registration) : Reader Registration := do
  match name.toLower with
  | "syntax" => do
    match ValueSyntax.ofString? (← string) with
    | some s => return { r with valueSyntax := some s }
    | none => fail .invalidValue
  | "inherits" => do
    let _ ← oneOf ["true", "false"]
    return { r with inherits := true }
  | "initial-value" => do
    let items := (← get).items
    modify fun s ↦ s.at_ []
    return { r with initialValue := some items }
  | _ => fail .invalidDeclaration

def Pos.relativeTo (origin p : Pos) : Pos :=
  if p.line == origin.line then ⟨1, p.column - origin.column + 1⟩
  else ⟨p.line - origin.line + 1, p.column⟩

/-- Whether a registration is complete; a place in the initial value counts from that value's own
start. -/
def Registration.check (r : Registration) : Reader Unit := do
  let some s := r.valueSyntax | fail .invalidAtRuleBody
  if !r.inherits then fail .invalidAtRuleBody
  match r.initialValue, s with
  | none, .universal => return
  | none, .alternatives _ => fail .invalidAtRuleBody
  | some items, s =>
    let place ← here
    let stop := (items.getLast?.map Component.stop).getD place
    let span := Span.at_ ⟨items, stop, stop⟩ items
    if items.isEmpty && (s matches .universal) then return
    match s.readValue span with
    | .ok _ => return
    | .error e => throw { e with pos := span.here.relativeTo e.pos }

end StyleTypings.Css
