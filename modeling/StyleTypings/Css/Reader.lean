import StyleTypings.Css.Component
import StyleTypings.Css.Failure

namespace StyleTypings.Css

/-- What is still to be read: the component values, the current place, and the place where the span
ends. -/
structure Span where
  items : List Component
  here : Pos
  stop : Pos
deriving Repr, Inhabited

def Span.front (s : Span) : Pos :=
  match s.items with
  | c :: _ => c.start
  | [] => s.stop

def Span.at_ (s : Span) (items : List Component) : Span :=
  let rest : Span := { s with items := items }
  { rest with here := rest.front }

def Component.contents : Component → Span
  | .leaf _ _ stop => ⟨[], stop, stop⟩
  | .block _ _ inner body close _ => ⟨body, inner, close⟩

def dropBlank : List Component → List Component
  | c :: rest => if c.token.isBlank then dropBlank rest else c :: rest
  | [] => []

def dropComments : List Component → List Component
  | c :: rest =>
    match c.token with
    | .comment _ => dropComments rest
    | _ => c :: rest
  | [] => []

/-- A reader fails at a place or leaves the rest of its span. A block that was met but not entered
is skipped as a whole by the next read. -/
abbrev Reader := StateT Span (Except Failure)

namespace Reader

variable {α β : Type}

def failAt (pos : Pos) (cause : Cause) : Reader α := throw ⟨cause, pos⟩

def here : Reader Pos := return (← get).here

def fail (cause : Cause) : Reader α := do failAt (← here) cause

def nextRaw? : Reader (Option Component) := do
  let s ← get
  match s.items with
  | c :: rest =>
    set { s with items := rest, here := c.inner : Span }
    return some c
  | [] =>
    set { s with here := s.stop }
    return none

def skipBlank : Reader Unit :=
  modify fun s ↦ s.at_ (dropBlank s.items)

def next? : Reader (Option Component) := do
  skipBlank
  nextRaw?

def nextWithSpace? : Reader (Option Component) := do
  modify fun s ↦ s.at_ (dropComments s.items)
  nextRaw?

def orEnd (r : Reader (Option α)) : Reader α := do
  match ← r with
  | some a => return a
  | none => fail .endOfInput

def next : Reader Component := orEnd next?

def nextWithSpace : Reader Component := orEnd nextWithSpace?

/-- Runs a reader and gives its failure back as a value; what it read stays read only if it
succeeds. -/
def attempt (r : Reader α) : Reader (Except Failure α) := fun s ↦
  match r s with
  | .ok (a, rest) => .ok (.ok a, rest)
  | .error e => .ok (.error e, s)

def optional (r : Reader α) : Reader (Option α) := do
  match ← attempt r with
  | .ok a => return some a
  | .error _ => return none

def accepts (r : Reader α) : Reader Bool :=
  return (← optional r).isSome

def orElse (r : Reader α) (alternative : Reader α) : Reader α := do
  match ← attempt r with
  | .ok a => return a
  | .error _ => alternative

/-- Fails if anything but white space and comments is left; the failure lies before that white
space. -/
def exhausted : Reader Unit := do
  let s ← get
  match dropBlank s.items with
  | [] => return
  | c :: _ => failAt s.here (.unexpectedToken c.token)

def isExhausted : Reader Bool :=
  return (dropBlank (← get).items).isEmpty

def entirely (r : Reader α) (inside : Span) : Except Failure α :=
  match (do let a ← r; exhausted; return a : Reader α) inside with
  | .ok (a, _) => .ok a
  | .error e => .error e

def ofResult : Except Failure α → Reader α
  | .ok a => return a
  | .error e => throw e

def inside (c : Component) (r : Reader α) : Reader α := do
  modify fun s ↦ { s with here := c.stop }
  ofResult (entirely r c.contents)

/-- Splits component values before the first that satisfies `f`; `acc` holds what was passed, last
first. -/
def splitAux (f : Token → Bool) (acc : List Component) :
    List Component → List Component × List Component
  | [] => (acc.reverse, [])
  | c :: rest => if f c.token then (acc.reverse, c :: rest) else splitAux f (c :: acc) rest

/-- Runs a reader on what lies before a delimiter, which it must use up, and gives its result as a
value. The delimiter stays unread. -/
def before (delimiter : Token → Bool) (r : Reader α) : Reader (Except Failure α) := do
  let s ← get
  let (front, rest) := splitAux delimiter [] s.items
  let after := s.at_ rest
  set after
  return entirely r ⟨front, s.here, after.here⟩

def untilBefore (delimiter : Token → Bool) (r : Reader α) : Reader α := do
  ofResult (← before delimiter r)

/-- Repeats a step until it gives nothing. Steps that read something are bounded by the number of
component values, and the results come last first. -/
def repeatAux (step : Reader (Option α)) : Nat → List α → Reader (List α)
  | 0, acc => return acc
  | n + 1, acc => do
    match ← step with
    | some a => repeatAux step n (a :: acc)
    | none => return acc

def repeated (step : Reader (Option α)) : Reader (List α) := do
  return (← repeatAux step ((← get).items.length + 1) []).reverse

def isComma (t : Token) : Bool := t == .comma
def isSemicolon (t : Token) : Bool := t == .semicolon
def isOpenCurly (t : Token) : Bool := t == .openCurly
def isBang (t : Token) : Bool := t == .delim '!'

/-- The next token, if it is the one that `f` looks for. Otherwise the failure lies before the white
space in front of it. -/
def expect (f : Token → Option α) : Reader (Component × α) := do
  let start ← here
  let c ← next
  match f c.token with
  | some a => return (c, a)
  | none => failAt start (.unexpectedToken c.token)

def token (t : Token) : Reader Component :=
  return (← expect fun u ↦ if u == t then some () else none).1

def ident : Reader String :=
  return (← expect fun | .ident name => some name | _ => none).2

def identOrString : Reader String :=
  return (← expect fun | .ident text | .string text => some text | _ => none).2

def string : Reader String :=
  return (← expect fun | .string text => some text | _ => none).2

def keyword (name : String) : Reader Unit := do
  let _ ← expect fun
    | .ident n => if sameName n name then some () else none
    | _ => none

def functionNamed (name : String) : Reader Component :=
  return (← expect fun
    | .function n => if sameName n name then some () else none
    | _ => none).1

def url : Reader String := do
  let (c, text) ← expect fun
    | .unquotedUrl text => some (some text)
    | .function n => if sameName n "url" then some none else none
    | _ => none
  match text with
  | some text => return text
  | none => inside c string

def urlOrString : Reader String := do
  let (c, text) ← expect fun
    | .unquotedUrl text | .string text => some (some text)
    | .function n => if sameName n "url" then some none else none
    | _ => none
  match text with
  | some text => return text
  | none => inside c string

def commaSeparated (r : Reader α) : Reader (List α) := do
  skipBlank
  let first ← untilBefore isComma r
  let more ← repeated do
    match ← next? with
    | none => return none
    | some _ => do
      skipBlank
      return some (← untilBefore isComma r)
  return first :: more

end Reader
end StyleTypings.Css
