import StyleTypings.Css.AtRule
import StyleTypings.Css.Property

namespace StyleTypings.Css

open Reader

inductive Rule where
  | style (selectors : List Selector) (body : List Rule)
  | scope (start stop : List Selector) (body : List Rule)
  | group (body : List Rule)

mutual

/-- The selectors of a rule in the order in which they are visited: its own before those of the
rules in it. -/
def Rule.selectors : Rule → List Selector
  | .style selectors body => selectors ++ Rule.selectorsOfList body
  | .scope start stop body => start ++ stop ++ Rule.selectorsOfList body
  | .group body => Rule.selectorsOfList body

def Rule.selectorsOfList : List Rule → List Selector
  | [] => []
  | r :: rest => r.selectors ++ Rule.selectorsOfList rest

end

namespace Rule

structure BlockGrammar where
  atRule : String → Reader (List Rule)
  /-- The value of a declaration of the given name, where declarations may stand. -/
  declaration : Option (String → Reader Unit)
  /-- A rule that begins with selectors, where such rules may stand; it ends at a semicolon if
  declarations may stand there too. -/
  qualified : Option (Bool → Reader (List Rule))

def endsPrelude (t : Token) : Bool := isSemicolon t || isOpenCurly t

def declarationItem (value : String → Reader Unit) (name : String) : Reader Unit := do
  untilBefore isSemicolon do
    let _ ← token .colon
    value name
  let _ ← optional (token .semicolon)
  return

def blockItem (g : BlockGrammar) : Reader (Option (List Rule)) := do
  skipBlank
  let start ← get
  match ← next? with
  | none => return none
  | some c =>
    match c.token, g.declaration, g.qualified with
    | .semicolon, _, _ => return some []
    | .atKeyword name, _, _ => return some (← g.atRule name)
    | .ident name, some value, none => do
      declarationItem value name
      return some []
    | .ident name, some value, some qualified =>
      match ← attempt (declarationItem value name) with
      | .ok _ => return some []
      | .error e => do
        set start
        match ← attempt (qualified true) with
        | .ok rules => return some rules
        | .error _ => throw e
    | _, declaration, some qualified => do
      set start
      return some (← qualified declaration.isSome)
    | t, _, none => failAt c.start (.unexpectedToken t)

def blockItems (g : BlockGrammar) : Reader (List Rule) :=
  return (← repeated (blockItem g)).flatten

/-- An at-rule behind its name. `statement` gives what it stands for without a block, if it may be
without one. -/
def atRule {α : Type} (prelude : Reader α) (statement : α → Option (List Rule))
    (block : α → Reader (List Rule)) : Reader (List Rule) := do
  let p ← untilBefore endsPrelude prelude
  match ← next? with
  | some c => if isOpenCurly c.token then inside c (block p) else ofStatement p
  | none => ofStatement p
where
  ofStatement (p : α) : Reader (List Rule) :=
    match statement p with
    | some rules => return rules
    | none => fail (.unexpectedToken .semicolon)

def looksLikeDeclaration : Reader Bool := do
  let start ← get
  let answer ← accepts do
    let _ ← dashedIdent
    token .colon
  set start
  return answer

/-- A rule that begins with selectors. That the block is missing counts before any mistake in the
selectors. -/
def qualified {α : Type} (prelude : Reader α) (block : α → Reader (List Rule))
    (endsAtSemicolon : Bool) : Reader (List Rule) := do
  skipBlank
  if ← looksLikeDeclaration then fail .invalidQualifiedRule
  let p ← before (if endsAtSemicolon then endsPrelude else isOpenCurly) prelude
  let c ← token .openCurly
  inside c (block (← ofResult p))

def noAtRule {α : Type} (name : String) : Reader α := fail (.unknownAtRule name)

def declarations : Reader (List Rule) := blockItems ⟨noAtRule, some declarationValue, none⟩

def marginBoxes : List String := [
  "top-left-corner", "top-left", "top-center", "top-right", "top-right-corner", "left-top",
  "left-middle", "left-bottom", "right-top", "right-middle", "right-bottom", "bottom-left-corner",
  "bottom-left", "bottom-center", "bottom-right", "bottom-right-corner"]

def fontFeatureGroups : List String := [
  "stylistic", "historical-forms", "styleset", "character-variant", "swash", "ornaments",
  "annotation"]

def tableRule (names : List String) (block : Reader (List Rule)) (name : String) :
    Reader (List Rule) :=
  atRule (if names.contains name.toLower then return else fail (.unknownAtRule name))
    (fun _ ↦ none) (fun _ ↦ block)

def page : Reader (List Rule) :=
  blockItems ⟨tableRule marginBoxes declarations, some declarationValue, none⟩

/-- The values of a feature of a font: whole numbers. The first component value that is none is
passed over. -/
def fontFeatureValue : Reader Unit := do
  let numbers ← repeated do
    match ← next? with
    | some c =>
      match c.token with
      | .number ⟨_, _, some n⟩ => return some n
      | _ => return none
    | none => return none
  if numbers.isEmpty then fail .invalidValue

def fontFeatures : Reader (List Rule) :=
  let group := blockItems ⟨noAtRule, some fun _ ↦ fontFeatureValue, none⟩
  blockItems ⟨tableRule fontFeatureGroups group, none,
    some (qualified (fail .invalidQualifiedRule) fun () ↦ return [])⟩

def registration : Reader (List Rule) := do
  let rec go : Nat → Registration → Reader Registration
    | 0, r => return r
    | n + 1, r => do
      skipBlank
      match ← next? with
      | none => return r
      | some c =>
        match c.token with
        | .semicolon => go n r
        | .ident name => do
          let r ← untilBefore isSemicolon do
            let _ ← token .colon
            r.declare name
          go n r
        | .atKeyword name => noAtRule name
        | t => failAt c.start (.unexpectedToken t)
  let r ← go ((← get).items.length + 1) {}
  r.check
  return []

def ignored : Reader (List Rule) := do
  modify fun s ↦ s.at_ []
  return []

def statementOf (inStyleRule : Bool) : Prelude → Option (List Rule)
  | .layers count => if inStyleRule || count == 0 then none else some []
  | .unknown => some []
  | _ => none

def nestedPrelude (depth : Nat) (inStyleRule : Bool) (name : String) : Reader Prelude := do
  let p ← AtRule.prelude depth inStyleRule name.toLower
  if inStyleRule && !p.mayNest then fail (.unknownAtRule name)
  return p

mutual

def rules : Nat → (inStyleRule : Bool) → Reader (List Rule)
  | 0, _ => fail .nestingTooDeep
  | depth + 1, inStyleRule =>
    blockItems ⟨
      fun name ↦ atRule (nestedPrelude depth inStyleRule name) (statementOf inStyleRule)
        (block depth inStyleRule),
      if inStyleRule then some declarationValue else none,
      some (styleRule depth inStyleRule)⟩
termination_by depth => (depth, 0)

def block (depth : Nat) (inStyleRule : Bool) : Prelude → Reader (List Rule)
  | .group => return [.group (← rules depth inStyleRule)]
  | .scope start stop => return [.scope start stop (← rules depth inStyleRule)]
  | .nest selectors => return [.style selectors (← rules depth true)]
  | .layers count => do
    if count > 1 then fail .invalidAtRuleBody
    return [.group (← rules depth inStyleRule)]
  | .declarations | .fallbackPosition => declarations
  | .page => page
  | .property => registration
  | .fontFeatures => fontFeatures
  | .lenient => ignored
  | .unknown => do
    value valueDepth
    return []
  | .importing | .namespace_ | .charset => fail (.unexpectedToken .openCurly)
termination_by (depth, 1)

def styleRule (depth : Nat) (inStyleRule : Bool) (endsAtSemicolon : Bool) : Reader (List Rule) :=
  qualified (selectorList depth (if inStyleRule then .relative else .absolute))
    (fun selectors ↦ return [.style selectors (← rules depth true)]) endsAtSemicolon
termination_by (depth, 2)

end

end Rule

/-- The part of a stylesheet that has been reached; imports and namespaces must come early. -/
inductive Section where
  | start
  | layers
  | imports
  | namespaces
  | body
deriving DecidableEq, Repr, Inhabited

def Section.allowsImport : Section → Bool
  | .start | .layers | .imports => true
  | _ => false

def Section.allowsNamespace : Section → Bool
  | .body => false
  | _ => true

def Section.after (s : Section) : Prelude → Section
  | .importing => .imports
  | .namespace_ => .namespaces
  | .layers _ =>
    match s with
    | .start | .layers => .layers
    | _ => .body
  | _ => s

namespace Stylesheet

def topPrelude (depth : Nat) (s : Section) (name : String) : Reader Prelude :=
  match name.toLower with
  | "import" => do
    if !s.allowsImport then fail .misplacedImport
    AtRule.importing depth
  | "namespace" => do
    if !s.allowsNamespace then fail .misplacedNamespace
    AtRule.namespaceName
  | "charset" => do
    let _ ← string
    return .charset
  | _ => Rule.nestedPrelude depth false name

def topStatement : Prelude → Option (List Rule)
  | .importing | .namespace_ | .charset => some []
  | p => Rule.statementOf false p

def topAtRule (depth : Nat) (s : Section) (name : String) : Reader (List Rule × Section) := do
  let p ← untilBefore Rule.endsPrelude (topPrelude depth s name)
  match ← next? with
  | some c =>
    if isOpenCurly c.token then return (← inside c (Rule.block depth false p), .body)
    else return (← ofStatement p, s.after p)
  | none => return (← ofStatement p, s.after p)
where
  ofStatement (p : Prelude) : Reader (List Rule) :=
    match topStatement p with
    | some rules => return rules
    | none => fail (.unexpectedToken .semicolon)

def skipCharset : Reader Unit := do
  let rest := (splitAux Rule.endsPrelude [] (← get).items).2
  modify fun s ↦ s.at_ rest
  let _ ← next?

/-- Passes over what may stand between rules: white space, comments, and the marks that hide a
stylesheet in a document. -/
def skipBetween : List Component → List Component
  | c :: rest =>
    if c.token.isBlank || c.token == .cdo || c.token == .cdc then skipBetween rest else c :: rest
  | [] => []

def rules (depth : Nat) : (n : Nat) → (first : Bool) → Section → Reader (List Rule)
  | 0, _, _ => return []
  | n + 1, first, s => do
    modify fun span ↦ span.at_ (skipBetween span.items)
    let start ← get
    match ← next? with
    | none => return []
    | some c =>
      match c.token with
      | .atKeyword name =>
        if first && sameName name "charset" then do
          skipCharset
          rules depth n false s
        else do
          let (found, s) ← topAtRule depth s name
          return found ++ (← rules depth n false s)
      | _ => do
        set start
        let found ← Rule.styleRule depth false false
        return found ++ (← rules depth n false .body)

end Stylesheet

def parse (text : String) : Except Failure (List Rule) :=
  let (tokens, stop) := lexemes text
  let items := Component.ofLexemes tokens stop
  (Stylesheet.rules (tokens.length + 1) (items.length + 1) true .start).run'
    (Span.at_ ⟨items, stop, stop⟩ items)

def names (sheet : List Rule) : List String :=
  distinctNames (Selector.storedList (Rule.selectorsOfList sheet))

end StyleTypings.Css
