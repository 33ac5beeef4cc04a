import StyleTypings.Css.Lexer

namespace StyleTypings.Css

/-- The tokens of a stylesheet with every block gathered under the token that opens it. A block ends
at its own closing token or with the text; any other closing bracket inside it is an ordinary token.
-/
inductive Component where
  | leaf (token : Token) (start stop : Pos)
  /-- A block: its opening token, its beginning, the place behind the opening token, its contents,
  the place of its closing token, and its end. -/
  | block (opener : Token) (start inner : Pos) (body : List Component) (close stop : Pos)
deriving Repr, Inhabited

namespace Component

def token : Component → Token
  | leaf t _ _ => t
  | block t _ _ _ _ _ => t

def start : Component → Pos
  | leaf _ s _ => s
  | block _ s _ _ _ _ => s

def inner : Component → Pos
  | leaf _ _ s => s
  | block _ _ i _ _ _ => i

def stop : Component → Pos
  | leaf _ _ s => s
  | block _ _ _ _ _ s => s

mutual

def height : Component → Nat
  | leaf _ _ _ => 0
  | block _ _ _ body _ _ => heights body + 1

def heights : List Component → Nat
  | [] => 0
  | c :: rest => max c.height (heights rest)

end

/-- A block that is still open: its opening token, its beginning, the place behind the opening
token, and what was found in it so far, last first. -/
structure Frame where
  opener : Token
  start : Pos
  inner : Pos
  found : List Component

def Frame.close (f : Frame) (close stop : Pos) : Component :=
  .block f.opener f.start f.inner f.found.reverse close stop

/-- What is known in the middle of a text: the open blocks, innermost first, and what was found
outside of all of them, last first. -/
structure Gathering where
  frames : List Frame
  found : List Component

def Gathering.add (g : Gathering) (c : Component) : Gathering :=
  match g.frames with
  | f :: rest => { g with frames := { f with found := c :: f.found } :: rest }
  | [] => { g with found := c :: g.found }

def Gathering.step (g : Gathering) (l : Lexeme) : Gathering :=
  match g.frames with
  | f :: rest =>
    if f.opener.closer? == some l.token then
      Gathering.add { g with frames := rest } (f.close l.start l.stop)
    else if l.token.closer?.isSome then
      { g with frames := ⟨l.token, l.start, l.stop, []⟩ :: g.frames }
    else g.add (.leaf l.token l.start l.stop)
  | [] =>
    if l.token.closer?.isSome then { g with frames := [⟨l.token, l.start, l.stop, []⟩] }
    else g.add (.leaf l.token l.start l.stop)

def Gathering.finish (stop : Pos) : List Frame → List Component → List Component
  | [], found => found.reverse
  | [f], found => ((f.close stop stop) :: found).reverse
  | f :: g :: rest, found =>
    Gathering.finish stop ({ g with found := f.close stop stop :: g.found } :: rest) found
termination_by frames => frames.length

def ofLexemes (tokens : List Lexeme) (stop : Pos) : List Component :=
  let g := tokens.foldl Gathering.step ⟨[], []⟩
  Gathering.finish stop g.frames g.found

end Component
end StyleTypings.Css
