import StyleTypings.Css.Selector
import StyleTypings.Css.Selector.Nth
import StyleTypings.Css.Selector.Pseudo
import StyleTypings.Css.Value

namespace StyleTypings.Css

open Reader

/-- What has been met in front of the place that is read, and what the surrounding function
forbids. -/
structure Context where
  afterElement : Bool := false
  afterSlotted : Bool := false
  afterPart : Bool := false
  afterScrollbar : Bool := false
  afterTransition : Bool := false
  noElements : Bool := false
  noCombinators : Bool := false
  nesting : Bool := false
deriving Repr, Inhabited

def Context.afterPseudo (c : Context) : Bool :=
  c.afterElement || c.afterSlotted || c.afterPart

/-- A selector that is being read: what was read before the last combinator, that combinator, and
the compound behind it. -/
structure Draft where
  before : Option (Selector × Combinator) := none
  compound : List Simple := []

namespace Draft

def push (d : Draft) (s : Simple) : Draft := { d with compound := d.compound ++ [s] }

def finish (d : Draft) : Selector :=
  match d.before with
  | some (s, c) => .link s c d.compound
  | none => .first d.compound

def combine (d : Draft) (c : Combinator) : Draft := ⟨some (d.finish, c), []⟩

end Draft

structure Progress where
  context : Context
  draft : Draft

abbrev SelectorReader := StateT Progress Reader

/-- What a list of selectors does with one that is wrong: it fails too, or it leaves that one
out. -/
inductive Recovery where
  | none
  | leaveOut
deriving DecidableEq, Repr

inductive Anchoring where
  | absolute
  | relative
deriving DecidableEq, Repr

namespace SelectorReader

abbrev Whole := Context → Reader (Selector × Bool)

def context : SelectorReader Context := return (← get).context

def changeContext (f : Context → Context) : SelectorReader Unit :=
  modify fun p ↦ { p with context := f p.context }

def push (s : Simple) : SelectorReader Unit :=
  modify fun p ↦ { p with draft := p.draft.push s }

def combine (c : Combinator) : SelectorReader Unit :=
  modify fun p ↦ { p with draft := p.draft.combine c }

def noteNesting (met : Bool) : SelectorReader Unit :=
  changeContext fun c ↦ { c with nesting := c.nesting || met }

/-- Fails with an invalid state at the current place unless the condition holds. -/
def require (allowed : Bool) : Reader Unit := do
  if !allowed then fail .invalidState

def repeatWhile (step : SelectorReader Bool) : Nat → SelectorReader Unit
  | 0 => return
  | n + 1 => do
    if ← step then repeatWhile step n

def bound : SelectorReader Nat := do
  let s ← (get : Reader Span)
  return s.items.length + 1

def afterBar : Reader Unit := do
  let start ← here
  let c ← nextWithSpace
  match c.token with
  | .ident _ | .delim '*' => return
  | t => failAt start (.namespaceNeedsName t)

/-- Reads on behind the first part of a type selector, which may be a namespace. -/
def afterPrefix : Reader Unit := do
  let start ← get
  match ← nextWithSpace? with
  | some c => if c.token == .delim '|' then afterBar else set start
  | none => set start

def typeName : Reader Bool := do
  let start ← get
  match ← nextWithSpace? with
  | some c =>
    match c.token with
    | .ident _ | .delim '*' => do afterPrefix; return true
    | .delim '|' => do afterBar; return true
    | _ => do set start; return false
  | none => do set start; return false

/-- A type selector, or nothing. Where the text ends behind a bar there is no type, but what was
read stays read. -/
def typeSelector : SelectorReader Bool := do
  let start ← (get : Reader Span)
  match ← attempt typeName with
  | .ok false => return false
  | .ok true =>
    require (!(← context).afterPseudo)
    push .other
    return true
  | .error ⟨.endOfInput, _⟩ =>
    set ({ start with items := [], here := start.stop } : Span)
    return false
  | .error e => throw e

def attributeAfterBar : Reader Unit := do
  let start ← here
  let c ← nextWithSpace
  match c.token with
  | .ident _ => return
  | t => failAt start (.attributeBadName t)

def attributeName : Reader Unit := do
  let place ← here
  match ← nextWithSpace? with
  | none => fail .endOfInput
  | some c =>
    match c.token with
    | .ident _ =>
      let start ← get
      match ← nextWithSpace? with
      | some c => if c.token == .delim '|' then attributeAfterBar else set start
      | none => set start
    | .delim '*' =>
      let start ← here
      let c ← nextWithSpace
      if c.token == .delim '|' then attributeAfterBar
      else failAt start (.attributeNeedsBar c.token)
    | .delim '|' => attributeAfterBar
    | t => failAt place (.attributeNeedsName t)

def isComparison (t : Token) : Bool :=
  [.delim '=', .includeMatch, .dashMatch, .prefixMatch, .suffixMatch, .substringMatch].contains t

def insideAttribute : Reader Unit := do
  skipBlank
  attributeName
  let start ← here
  match ← next? with
  | none => return
  | some c =>
    if !isComparison c.token then failAt start (.attributeBadOperator c.token)
    let start ← here
    match ← attempt identOrString with
    | .ok _ => pure ()
    | .error ⟨.unexpectedToken t, _⟩ => failAt start (.attributeBadValue t)
    | .error e => throw e
    let start ← here
    match ← next? with
    | none => return
    | some c =>
      match c.token with
      | .ident flag =>
        if !(sameName flag "i" || sameName flag "s") then
          failAt start (.unexpectedToken c.token)
      | t => failAt start (.unexpectedToken t)

def relative (whole : Whole) : Whole := fun c ↦ do
  let start ← get
  let first ← next
  let combinator := match first.token with
    | .delim '>' => some Combinator.child
    | .delim '+' => some .nextSibling
    | .delim '~' => some .laterSibling
    | _ => none
  if combinator.isNone then set start
  whole c

def anchored (whole : Whole) : Anchoring → Whole
  | .absolute => whole
  | .relative => relative whole

def skipComma : Reader Bool := do
  let rest := (splitAux isComma [] (← get).items).2
  modify fun s ↦ s.at_ rest
  return (← next?).isSome

def list (whole : Whole) (recovery : Recovery) (anchoring : Anchoring) (c : Context) :
    Reader (List Selector × Bool) := do
  let rec go : Nat → List Selector → Bool → Reader (List Selector × Bool)
    | 0, found, met => return (found.reverse, met)
    | n + 1, found, met => do
      let part ← before isComma (anchored whole anchoring c)
      let (found, met) ← match part with
        | .ok (s, m) => pure (s :: found, met || m)
        | .error e => if recovery = .none then throw e else pure (found, met)
      if ← skipComma then go n found met else return (found.reverse, met)
  go ((← get).items.length + 1) [] false

/-- The argument of a part of a view transition: a name or a star, and classes. -/
def transitionPart : Reader Unit := do
  skipBlank
  if !(← accepts (token (.delim '*'))) then
    let _ ← optional customIdent
  let _ ← repeated do
    match ← nextWithSpace? with
    | none => return none
    | some c =>
      if c.token != .delim '.' then fail .invalidState
      match ← nextWithSpace? with
      | some d =>
        match d.token with
        | .ident _ => return some ()
        | _ => fail .invalidState
      | none => fail .invalidState
  return

def identifiers : Reader Unit := do
  let _ ← ident
  let _ ← repeated do
    if ← isExhausted then return none
    return some (← ident)
  return

def elementArgument (whole : Whole) (name : String) : Reader Bool := do
  if Pseudo.cueElements.contains name then
    let _ ← whole {}
    return true
  else if Pseudo.transitionElements.contains name then
    transitionPart
    return true
  else if name == "highlight" then
    let _ ← customIdent
    return true
  else if name == "picker" then
    let _ ← ident
    return true
  else
    anyTokens valueDepth
    return false

def addElement (name : String) (known : Bool) : SelectorReader Unit := do
  if known then
    combine .pseudoElement
    changeContext fun c ↦ { c with
      afterElement := true
      afterScrollbar := c.afterScrollbar || Pseudo.scrollbarElements.contains name
      afterTransition := c.afterTransition || Pseudo.transitionElements.contains name }
  push .other

def compoundArgument (whole : Whole) (fn : CompoundFunction) (c : Component) :
    SelectorReader Simple := do
  let outer ← context
  let (argument, met) ←
    inside c (whole { outer with noElements := true, noCombinators := true })
  noteNesting met
  return .compound fn argument

def element (whole : Whole) (c : Component) (name : String) (functional : Bool) :
    SelectorReader Unit := do
  let outer ← context
  require (!outer.afterElement && !outer.noElements)
  if functional && name == "part" then
    require (!outer.afterPseudo)
    inside c identifiers
    combine .part
    changeContext fun c ↦ { c with afterPart := true }
    push .other
  else if functional && name == "slotted" then
    require (!outer.afterPseudo)
    let s ← compoundArgument whole .slotted c
    combine .slotAssignment
    changeContext fun c ↦ { c with afterSlotted := true }
    push s
  else
    let known ← if functional then inside c (elementArgument whole name)
      else pure (Pseudo.elements.contains name)
    require (!outer.afterSlotted || (!functional && Pseudo.elementsAfterSlotted.contains name))
    addElement name known

/-- A pseudo-class without an argument; `start` is the place behind its colon. -/
def simpleClass (start : Pos) (name : String) : SelectorReader Unit := do
  let c ← context
  let refuse (cause : Cause) : Reader Unit := failAt start cause
  if c.afterSlotted then refuse .invalidState
  if !c.afterPseudo && Pseudo.structuralClasses.contains name then push .other
  else if c.afterTransition && name == "only-child" then push .other
  else
    if c.afterScrollbar then
      if !Pseudo.classesAfterScrollbar.contains name then refuse .pseudoClassAfterScrollbar
    else if c.afterElement then
      if !Pseudo.userActionClasses.contains name then refuse .pseudoClassAfterElement
    else if Pseudo.scrollbarClasses.contains name then refuse .pseudoClassWithoutScrollbar
    push .other

def listArgument (whole : Whole) (fn : ListFunction) : SelectorReader Simple := do
  let outer ← context
  let recovery : Recovery := if fn = .not then .none else .leaveOut
  let (selectors, met) ←
    if fn = .has then list whole recovery .relative outer
    else list whole recovery .absolute { outer with noElements := true }
  noteNesting met
  return .lists fn selectors

def listFunction? (name : String) : Option ListFunction :=
  match name with
  | "not" => some .not
  | "is" => some .is
  | "where" => some .where_
  | "has" => some .has
  | "-webkit-any" | "-moz-any" => some .any
  | _ => none

def nthFunction? (name : String) : Option Bool :=
  if ["nth-child", "nth-last-child"].contains name then some true
  else if ["nth-of-type", "nth-last-of-type", "nth-col", "nth-last-col"].contains name then
    some false
  else none

def insideBlock {α : Type} (c : Component) (r : SelectorReader α) : SelectorReader α := fun p ↦
  inside c (r p)

def plainArgument (name : String) : Reader Unit := do
  match name with
  | "lang" =>
    let _ ← commaSeparated identOrString
  | "dir" =>
    let _ ← oneOf ["ltr", "rtl"]
  | "active-view-transition-type" =>
    let _ ← commaSeparated customIdent
  | "state" =>
    let _ ← customIdent
  | _ => anyTokens valueDepth

def functionalClass (whole : Whole) (c : Component) (name : String) : SelectorReader Unit := do
  let outer ← context
  match listFunction? name, nthFunction? name with
  | some fn, _ => push (← insideBlock c (listArgument whole fn))
  | none, some selectorsMayFollow =>
    push <| ← insideBlock c do
      require (!outer.afterPseudo)
      Nth.places
      if selectorsMayFollow && (← accepts (keyword "of")) then listArgument whole .nthOf
      else return .other
  | none, none =>
    if name == "host" then
      push <| ← insideBlock c do
        require (!outer.afterPseudo)
        let (argument, met) ← whole { outer with noElements := true, noCombinators := true }
        noteNesting met
        return .compound .host argument
    else
      inside c do
        require (!outer.afterPseudo)
        plainArgument name
      push .other

def pseudo (whole : Whole) : SelectorReader Unit := do
  let start ← here
  let c ← nextWithSpace
  let double := c.token == .colon
  let c ← if double then nextWithSpace else pure c
  let (name, functional) ← match c.token with
    | .ident name => pure (name.toLower, false)
    | .function name => pure (name.toLower, true)
    | t => fail (.pseudoNeedsIdent t)
  if double || Pseudo.singleColonElements.contains name then element whole c name functional
  else if functional then functionalClass whole c name
  else simpleClass start name

def notBehindPseudo (start : Pos) (t : Token) : SelectorReader Unit := do
  if (← context).afterPseudo then failAt start (.afterPseudoElement t)

def simple (whole : Whole) : SelectorReader Bool := do
  let start ← (get : Reader Span)
  let place ← here
  match ← nextWithSpace? with
  | none => do
    set start
    return false
  | some c =>
    match c.token with
    | .idHash name => do
      notBehindPseudo place c.token
      push (.id name)
      return true
    | .delim '.' => do
      notBehindPseudo place c.token
      let behind ← here
      let d ← nextWithSpace
      match d.token with
      | .ident name => do
        push (.cls name)
        return true
      | t => failAt behind (.classNeedsIdent t)
    | .openSquare => do
      notBehindPseudo place c.token
      inside c insideAttribute
      push .other
      return true
    | .colon => do
      pseudo whole
      return true
    | .delim '&' => do
      noteNesting true
      push .other
      return true
    | _ => do
      set start
      return false

def compound (whole : Whole) : SelectorReader Bool := do
  skipBlank
  let ampersand ← accepts (token (.delim '&'))
  if ampersand then
    noteNesting true
    push .other
  let type ← typeSelector
  let first ← simple whole
  if first then repeatWhile (simple whole) (← bound)
  return ampersand || type || first

def combinator : Reader (Option Combinator) := do
  let rec go : Nat → Bool → Reader (Option Combinator)
    | 0, _ => return none
    | n + 1, space => do
      let start ← get
      match ← nextWithSpace? with
      | none => return none
      | some c =>
        match c.token with
        | .whiteSpace _ => go n true
        | .delim '>' => return some .child
        | .delim '+' => return some .nextSibling
        | .delim '~' => return some .laterSibling
        | _ => do
          set start
          return if space then some .descendant else none
  go ((← get).items.length + 1) false

def oneCompound (whole : Whole) : SelectorReader Bool := do
  if !(← compound whole) then
    match (← get).draft.before with
    | some _ => fail .danglingCombinator
    | none => fail .emptySelector
  let c ← context
  if c.afterPseudo then
    let start ← here
    match ← next? with
    | some d => failAt start (.afterPseudoElement d.token)
    | none => return false
  match ← combinator with
  | none => return false
  | some tie =>
    require (!c.noCombinators)
    combine tie
    return true

def whole : Nat → Whole
  | 0, _ => fail .nestingTooDeep
  | depth + 1, c => do
    let n := (← get).items.length + 1
    let ((), p) ← (repeatWhile (oneCompound (whole depth)) n).run ⟨c, {}⟩
    return (p.draft.finish, p.context.nesting)

end SelectorReader

def selectorList (depth : Nat) (anchoring : Anchoring) : Reader (List Selector) :=
  return (← SelectorReader.list (SelectorReader.whole depth) .none anchoring {}).1

def forgivingSelectorList (depth : Nat) (anchoring : Anchoring) : Reader (List Selector) :=
  return (← SelectorReader.list (SelectorReader.whole depth) .leaveOut anchoring {}).1

def nestingSelectorList (depth : Nat) : Reader (List Selector) := do
  let needsNesting : SelectorReader.Whole := fun c ↦ do
    let (s, met) ← SelectorReader.whole depth c
    if !met then fail .missingNestingSelector
    return (s, met)
  return (← SelectorReader.list needsNesting .none .absolute {}).1

end StyleTypings.Css
