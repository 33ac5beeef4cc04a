import StyleTypings.Css.Reader

namespace StyleTypings.Css.Nth

open Reader

def isDashDigits (word : String) : Bool :=
  match word.toList with
  | n :: '-' :: d :: digits => (n == 'n' || n == 'N') && (d :: digits).all Char.isDigit
  | _ => false

/-- A whole number without a sign, which follows a sign that stands alone. -/
def unsigned : Reader Unit := do
  let c ← next
  match c.token with
  | .number ⟨false, _, some _⟩ => return
  | t => fail (.unexpectedToken t)

def offset : Reader Unit := do
  let start ← get
  match ← next? with
  | some c =>
    match c.token with
    | .delim '+' | .delim '-' => unsigned
    | .number ⟨true, _, some _⟩ => return
    | _ => set start
  | none => set start

def afterWord (word : String) : Option (Reader Unit) :=
  if word == "n" then some offset
  else if word == "n-" then some unsigned
  else if isDashDigits word then some (return)
  else none

def afterPlus : Reader Unit := do
  let c ← nextWithSpace
  match c.token with
  | .ident name =>
    let word := name.toLower
    if word == "even" || word == "odd" then return
    match afterWord word with
    | some rest => rest
    | none => fail (.unexpectedToken (.ident name))
  | t => fail (.unexpectedToken t)

def places : Reader Unit := do
  let c ← next
  match c.token with
  | .number ⟨_, _, some _⟩ => return
  | .dimension ⟨_, _, some _⟩ unit =>
    match afterWord unit.toLower with
    | some rest => rest
    | none => fail (.unexpectedToken (.ident unit))
  | .ident name =>
    let word := name.toLower
    if word == "even" || word == "odd" then return
    match afterWord (if word.startsWith "-" then (word.drop 1).toString else word) with
    | some rest => rest
    | none => fail (.unexpectedToken (.ident name))
  | .delim '+' => afterPlus
  | t => fail (.unexpectedToken t)

end StyleTypings.Css.Nth
