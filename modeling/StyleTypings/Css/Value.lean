import StyleTypings.Css.Reader

namespace StyleTypings.Css

open Reader

def valueDepth : Nat := 501

def isWideKeyword (name : String) : Bool :=
  ["initial", "inherit", "unset", "revert", "revert-layer"].contains name.toLower

/-- A name that the author makes up; the keywords every property takes are kept out of it. -/
def customIdent : Reader String := do
  let start ← here
  let name ← ident
  if isWideKeyword name || sameName name "default" then
    failAt start (.unexpectedToken (.ident name))
  return name

def dashedIdent : Reader String := do
  let start ← here
  let name ← ident
  if !name.startsWith "--" then failAt start (.unexpectedToken (.ident name))
  return name

def integer : Reader Int :=
  return (← expect fun | .number num => num.whole | _ => none).2

def oneOf (names : List String) : Reader String := do
  let start ← here
  let name ← ident
  if names.contains name.toLower then return name.toLower
  else failAt start (.unexpectedToken (.ident name))

/-- A reader for each token of a span, to its end; `nested` reads the inside of a block. A token
that is an error ends the reading where it stands. -/
def eachToken (nested : Component → Reader Unit) : Reader Unit := do
  let _ ← repeated do
    let start ← here
    match ← nextRaw? with
    | none => return none
    | some c =>
      if c.token.isError then failAt start (.unexpectedToken c.token)
      if c.token.closer?.isSome then nested c
      return some ()
  return

def anyTokens : Nat → Reader Unit
  | 0 => fail .nestingTooDeep
  | depth + 1 => eachToken fun c ↦ inside c (anyTokens depth)

def environmentName : Reader Unit := do
  if !(← accepts dashedIdent) then
    let _ ← customIdent

def value : Nat → Reader Unit
  | 0 => fail .nestingTooDeep
  | depth + 1 => eachToken fun c ↦
    match c.token with
    | .function "url" => do let _ ← inside c string
    | .function "var" => inside c do
      let _ ← dashedIdent
      if ← accepts (token .comma) then value depth
    | .function "env" => inside c do
      environmentName
      let _ ← repeated (optional integer)
      if ← accepts (token .comma) then value depth
    | _ => inside c (value depth)

def important : Reader Unit := do
  let _ ← optional do
    let _ ← token (.delim '!')
    keyword "important"
  return

def endsValue (name : String) (t : Token) : Bool :=
  isBang t || (!name.startsWith "--" && isOpenCurly t)

def propertyValue (name : String) : Reader Unit :=
  if sameName name "all" then do
    let start ← here
    let keyword ← ident
    if !isWideKeyword keyword then failAt start (.unexpectedToken (.ident keyword))
  else untilBefore (fun t ↦ isBang t || isSemicolon t) (value valueDepth)

def declarationValue (name : String) : Reader Unit := do
  untilBefore (endsValue name) (propertyValue name)
  important
  exhausted

def noErrorTokens : Nat → Reader Unit
  | 0 => fail .nestingTooDeep
  | depth + 1 => do
    let _ ← repeated do
      match ← nextRaw? with
      | none => return none
      | some c =>
        if c.token.isError then fail (.unexpectedToken c.token)
        if c.token.closer?.isSome then inside c (noErrorTokens depth)
        return some ()
    return

end StyleTypings.Css
