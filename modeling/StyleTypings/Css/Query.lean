import StyleTypings.Css.Quantity

namespace StyleTypings.Css

open Reader

inductive FeatureKind where
  | length
  | ratio
  | resolution
  | boolean
  | integer
  | number
  | ident
  | unknown
deriving DecidableEq, Repr, Inhabited

def FeatureKind.isOrdered : FeatureKind → Bool
  | .ident | .boolean => false
  | _ => true

def FeatureKind.fits (feature value : FeatureKind) : Bool :=
  feature == .unknown || value == .unknown || feature == value

abbrev FeatureTable := List (FeatureKind × List String)

def FeatureTable.kind? (table : FeatureTable) (name : String) : Option FeatureKind :=
  (table.find? fun entry ↦ entry.2.contains name).map (·.1)

def mediaFeatures : FeatureTable := [
  (.length, ["width", "height", "device-width", "device-height"]),
  (.ratio, ["aspect-ratio", "device-aspect-ratio"]),
  (.resolution, ["resolution"]),
  (.boolean, ["grid"]),
  (.integer, [
    "horizontal-viewport-segments", "vertical-viewport-segments", "color", "color-index",
    "monochrome"]),
  (.number, ["-webkit-device-pixel-ratio", "-moz-device-pixel-ratio"]),
  (.ident, [
    "orientation", "overflow-block", "overflow-inline", "display-mode", "scan", "update",
    "environment-blending", "color-gamut", "dynamic-range", "inverted-colors", "pointer", "hover",
    "any-pointer", "any-hover", "nav-controls", "video-color-gamut", "video-dynamic-range",
    "scripting", "prefers-reduced-motion", "prefers-reduced-transparency", "prefers-contrast",
    "forced-colors", "prefers-color-scheme", "prefers-reduced-data"])]

def containerFeatures : FeatureTable := [
  (.length, ["width", "height", "inline-size", "block-size"]),
  (.ratio, ["aspect-ratio"]),
  (.ident, ["orientation"])]

def scrollStateFeatures : FeatureTable := [
  (.ident, ["stuck", "snapped", "scrollable", "scrolled"])]

namespace Query

/-- A number, or two with a slash between; `always` asks for both. -/
def ratio (always : Bool) : Reader Unit := do
  let _ ← Quantity.number
  if always then
    let _ ← token (.delim '/')
    let _ ← Quantity.number
  else if ← accepts (token (.delim '/')) then
    let _ ← Quantity.number

def environment : Reader Unit := do
  inside (← functionNamed "env") do
    environmentName
    let _ ← repeated (optional integer)
    if ← accepts (token .comma) then value (valueDepth - 1)

def valueOf : FeatureKind → Reader Unit
  | .boolean => do
    let n ← integer
    if n != 0 && n != 1 then fail .invalidValue
  | .number => do
    let _ ← Quantity.number
  | .integer => do
    let _ ← integer
  | .length => Quantity.length
  | .resolution => Quantity.resolution
  | .ratio => ratio false
  | .ident => do
    let _ ← ident
  | .unknown => fail .invalidValue

def featureValue (expected : FeatureKind) : Reader FeatureKind := do
  if ← accepts (valueOf expected) then return expected
  if ← accepts (ratio true) then return .ratio
  if ← accepts Quantity.number then return .number
  if ← accepts Quantity.length then return .length
  if ← accepts Quantity.resolution then return .resolution
  if ← accepts environment then return .unknown
  let _ ← ident
  return .ident

def fittingValue (kind : FeatureKind) : Reader Unit := do
  if !kind.fits (← featureValue kind) then fail .invalidMediaQuery

def featureName (table : FeatureTable) : Reader (FeatureKind × Bool) := do
  let name := (← ident).toLower
  if name.startsWith "--" then return (.unknown, false)
  let (vendor, bare) :=
    if name.startsWith "-webkit-" then ("-webkit-", (name.drop 8).toString) else ("", name)
  let limited := bare.startsWith "min-" || bare.startsWith "max-"
  let bare := if limited then (bare.drop 4).toString else bare
  match table.kind? (vendor ++ bare) with
  | some kind => return (kind, limited)
  | none => return (.unknown, false)

inductive Comparison where
  | equal
  | greater
  | less
deriving DecidableEq, Repr

def comparison : Reader Comparison := do
  let start ← here
  let c ← next
  let orEqual : Reader Unit := do
    let _ ← accepts (token (.delim '='))
  match c.token with
  | .delim '=' => return .equal
  | .delim '>' => do orEqual; return .greater
  | .delim '<' => do orEqual; return .less
  | t => failAt start (.unexpectedToken t)

def nameFirst (table : FeatureTable) : Reader Unit := do
  let (kind, limited) ← featureName table
  if ← accepts (token .colon) then
    fittingValue kind
    if limited && !kind.isOrdered then fail .invalidMediaQuery
  else if ← accepts comparison then
    if limited then fail .invalidMediaQuery
    fittingValue kind
    if !kind.isOrdered then fail .invalidMediaQuery

/-- Passes over component values up to the first name; gives its kind. -/
def findName (table : FeatureTable) : Nat → Reader FeatureKind
  | 0 => fail .invalidMediaQuery
  | n + 1 => do
    let start ← get
    match ← next? with
    | none => fail .invalidMediaQuery
    | some c =>
      match c.token with
      | .ident _ => do
        set start
        let (kind, limited) ← featureName table
        if limited then fail .invalidMediaQuery
        return kind
      | _ => do
        if ← isExhausted then fail .invalidMediaQuery
        findName table n

def valueFirst (table : FeatureTable) : Reader Unit := do
  let start ← get
  let kind ← findName table (start.items.length + 1)
  set start
  let found ← featureValue kind
  let lower ← comparison
  let _ ← featureName table
  if !kind.isOrdered || !kind.fits found then fail .invalidMediaQuery
  match ← optional comparison with
  | none => return
  | some upper =>
    if lower != upper || lower == .equal then fail .invalidMediaQuery
    fittingValue kind

def feature (table : FeatureTable) : Reader Unit := do
  match ← attempt (nameFirst table) with
  | .ok _ => return
  | .error ⟨.invalidMediaQuery, pos⟩ => failAt pos .invalidMediaQuery
  | .error _ => valueFirst table

def styleFeature : Reader Unit := do
  let name ← ident
  if ← accepts (token .colon) then
    skipBlank
    propertyValue name
    important

/-- What a condition is made of: what may stand in parentheses, and what may stand in functions. -/
structure Grammar where
  feature : Reader Unit
  functions : List (String × Reader Unit)

def Grammar.function? (g : Grammar) (name : String) : Option (Reader Unit) :=
  (g.functions.find? fun entry ↦ sameName name entry.1).map (·.2)

def operator : Reader String := oneOf ["and", "or"]

mutual

def condition (g : Grammar) : Nat → (orAllowed : Bool) → Reader Unit
  | 0, _ => fail .nestingTooDeep
  | depth + 1, orAllowed => do
    let start ← here
    let c ← next
    match c.token with
    | .ident name =>
      if !sameName name "not" then failAt start (.unexpectedToken c.token)
      parenthesised g depth
    | t => do
      term g depth start c t
      match ← optional operator with
      | none => return
      | some joint =>
        if !orAllowed && joint == "or" then failAt start (.unexpectedToken (.ident "or"))
        parenthesised g depth
        let _ ← repeated do
          if ← accepts (keyword joint) then
            parenthesised g depth
            return some ()
          else return none
        return
termination_by depth => (depth, 0)

def parenthesised (g : Grammar) (depth : Nat) : Reader Unit := do
  let start ← here
  let c ← next
  term g depth start c c.token
termination_by (depth, 2)

def term (g : Grammar) (depth : Nat) (start : Pos) (c : Component) : Token → Reader Unit
  | .openParen => inside c do
    if ← isExhausted then fail .emptyBrackets
    orElse (condition g depth true) g.feature
  | .function name =>
    match g.function? name with
    | some r => inside c r
    | none => failAt start (.unexpectedToken (.function name))
  | t => failAt start (.unexpectedToken t)
termination_by (depth, 1)

end

def mediaGrammar : Grammar := ⟨feature mediaFeatures, []⟩

/-- What stands in a function: a condition of its own grammar, or a feature. -/
def inFunction (depth : Nat) (f : Reader Unit) : Reader Unit :=
  orElse (condition ⟨f, []⟩ depth true) f

def containerGrammar (depth : Nat) : Grammar where
  feature := feature containerFeatures
  functions := [
    ("style", inFunction depth styleFeature),
    ("scroll-state", inFunction depth (feature scrollStateFeatures))]

def mediaType : Reader Unit := do
  let _ ← optional (oneOf ["only", "not"])
  let _ ← ident

def mediaQuery (depth : Nat) : Reader Unit := do
  if ← accepts mediaType then
    if ← accepts (keyword "and") then condition mediaGrammar depth false
  else condition mediaGrammar depth true

/-- Media queries that commas separate. A query that ends too early ends the list. -/
def mediaQueries (depth : Nat) : Reader Unit := do
  let _ ← repeated do
    match ← before isComma (mediaQuery depth) with
    | .error ⟨.endOfInput, _⟩ => return none
    | .error e => throw e
    | .ok _ => return (← next?).map fun _ ↦ ()
  return

def container (depth : Nat) : Reader Unit := do
  let named ← accepts do
    let name ← customIdent
    if ["none", "and", "not", "or"].contains name.toLower then fail (.unexpectedToken (.ident name))
  match ← attempt (condition (containerGrammar depth) depth true) with
  | .ok _ => return
  | .error e => if !(named && (← isExhausted)) then throw e

end Query
end StyleTypings.Css
