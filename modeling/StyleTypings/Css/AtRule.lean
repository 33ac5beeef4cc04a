import StyleTypings.Css.Query
import StyleTypings.Css.Selector.Reader
import StyleTypings.Css.Supports

namespace StyleTypings.Css

open Reader

inductive Prelude where
  | importing
  | namespace_
  | charset
  | layers (count : Nat)
  | group
  | scope (start stop : List Selector)
  | nest (selectors : List Selector)
  | declarations
  /-- A place for an element where its own does not fit; the block holds declarations. -/
  | fallbackPosition
  | page
  | property
  | fontFeatures
  /-- Mistakes in the block go unnoticed. -/
  | lenient
  | unknown
deriving Inhabited

def Prelude.mayNest : Prelude → Bool
  | .group | .layers _ | .scope _ _ | .nest _ | .property | .fallbackPosition | .unknown => true
  | _ => false

namespace AtRule

def layerName : Reader Unit := do
  let _ ← ident
  let _ ← repeated <| optional do
    let dot ← nextWithSpace
    let name ← nextWithSpace
    match dot.token, name.token with
    | .delim '.', .ident _ => return
    | _, _ => fail .invalidValue
  return

/-- Parts that commas separate; a part that ends too early ends the list, and the list counts as
empty then. -/
def partsOrNone (part : Reader Unit) : Reader Nat := do
  let rec go : Nat → Nat → Reader Nat
    | 0, count => return count
    | n + 1, count => do
      skipBlank
      match ← before isComma part with
      | .error ⟨.endOfInput, _⟩ => return 0
      | .error e => throw e
      | .ok _ =>
        match ← next? with
        | none => return count + 1
        | some _ => go n (count + 1)
  go ((← get).items.length + 1) 0

def keyframesName : Reader Unit := do
  let c ← next
  match c.token with
  | .string _ => return
  | .ident name =>
    if isWideKeyword name || ["none", "default"].contains name.toLower then
      fail (.unexpectedToken c.token)
  | t => fail (.unexpectedToken t)

def familyName : Reader Unit := do
  if !(← accepts string) then
    let _ ← ident
    let _ ← repeated (optional ident)
  return

def pageSelector : Reader Unit := do
  let named ← accepts ident
  let classes ← repeated do
    let start ← get
    match ← nextWithSpace? with
    | some c =>
      if c.token == .colon then
        return some (← oneOf ["left", "right", "first", "last", "blank"])
      set start
      return none
    | none =>
      set start
      return none
  if !named && classes.isEmpty then fail .invalidValue

/-- Rules for one browser only: `url-prefix()`, where an empty string may be given. -/
def documentPrefix : Reader Unit := do
  inside (← functionNamed "url-prefix") do
    match ← optional string with
    | some text => if !text.isEmpty then fail .invalidValue
    | none => return

def scopeSelectors (depth : Nat) : Reader (List Selector) := do
  inside (← token .openParen) (forgivingSelectorList depth .relative)

def scopeLimits (depth : Nat) : Reader Prelude := do
  let opening ← optional (token .openParen)
  let start ← match opening with
    | some c => inside c (forgivingSelectorList depth .relative)
    | none => pure []
  let stop ← if ← accepts (keyword "to") then scopeSelectors depth else pure []
  return .scope start stop

def importing (depth : Nat) : Reader Prelude := do
  let _ ← urlOrString
  if !(← accepts (keyword "layer")) then
    if let some c ← optional (functionNamed "layer") then inside c layerName
  if let some c ← optional (functionNamed "supports") then
    inside c (Supports.importCondition depth)
  Query.mediaQueries depth
  return .importing

def namespaceName : Reader Prelude := do
  let _ ← optional ident
  let _ ← urlOrString
  return .namespace_

def unknown : Reader Prelude := do
  skipBlank
  value valueDepth
  return .unknown

def prelude (depth : Nat) (inStyleRule : Bool) (name : String) : Reader Prelude := do
  match name with
  | "media" => do
    Query.mediaQueries depth
    return .group
  | "supports" => do
    Supports.condition depth
    return .group
  | "container" => do
    Query.container depth
    return .group
  | "-moz-document" => do
    documentPrefix
    return .group
  | "starting-style" => return .group
  | "layer" => return .layers (← partsOrNone layerName)
  | "scope" => scopeLimits depth
  | "font-face" | "view-transition" => return .lenient
  | "font-palette-values" => do
    let _ ← dashedIdent
    return .lenient
  | "keyframes" | "-webkit-keyframes" | "-moz-keyframes" | "-o-keyframes" | "-ms-keyframes" => do
    keyframesName
    return .lenient
  | "counter-style" => do
    let _ ← customIdent
    return .declarations
  | "viewport" | "-ms-viewport" => return .declarations
  | "position-try" => do
    let _ ← dashedIdent
    return .fallbackPosition
  | "page" => do
    let _ ← optional (commaSeparated pageSelector)
    return .page
  | "property" => do
    let _ ← dashedIdent
    return .property
  | "font-feature-values" => do
    let _ ← partsOrNone familyName
    return .fontFeatures
  | "nest" => if inStyleRule then return .nest (← nestingSelectorList depth) else unknown
  | _ => unknown

end AtRule
end StyleTypings.Css
