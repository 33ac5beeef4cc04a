import StyleTypings.Css.Value

namespace StyleTypings.Css.Supports

open Reader

def declaration : Reader Unit := do
  let _ ← ident
  let _ ← token .colon
  skipBlank
  noErrorTokens valueDepth

mutual

def condition : Nat → Reader Unit
  | 0 => fail .nestingTooDeep
  | depth + 1 => do
    if ← accepts (keyword "not") then inParens depth
    else
      inParens depth
      match ← optional (do let joint ← oneOf ["and", "or"]; inParens depth; return joint) with
      | none => return
      | some joint =>
        let _ ← repeated (optional (do keyword joint; inParens depth))
        return
termination_by depth => (depth, 0)

def inParens (depth : Nat) : Reader Unit := do
  skipBlank
  let start ← here
  let c ← next
  match c.token with
  | .function _ => inside c (noErrorTokens valueDepth)
  | .openParen =>
    orElse (inside c (orElse (condition depth) declaration)) (inside c (noErrorTokens valueDepth))
  | t => failAt start (.unexpectedToken t)
termination_by (depth, 1)

end

/-- What `@import` asks to be supported: a condition, or a declaration without parentheses. -/
def importCondition (depth : Nat) : Reader Unit := orElse (condition depth) declaration

end StyleTypings.Css.Supports
