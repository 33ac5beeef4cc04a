import StyleTypings.Text.Utf8

namespace StyleTypings.Shell

inductive Parameter where
  | named (name : String)
  | argument (index : Nat)
  | arguments
  | argumentCount
  | status
  | processId
deriving DecidableEq, Repr, Inhabited

inductive Part where
  | text (characters : String) (quoted : Bool)
  | parameter (p : Parameter) (quoted : Bool)
deriving DecidableEq, Repr, Inhabited

abbrev Word := List Part

inductive Outlet where
  | output
  | errors
  | nowhere
deriving DecidableEq, Repr, Inhabited

/-- Sends what is written to one of the two outputs somewhere else. -/
inductive Redirection where
  /-- To wherever the other one goes at this point. -/
  | copy (errors : Bool) (ofErrors : Bool)
  | drop (errors : Bool)
  | input (file : Word)
deriving DecidableEq, Repr, Inhabited

inductive Command where
  | simple (line : Nat) (words : List Word) (redirections : List Redirection)
  | forEach (name : String) (words : List Word) (body : List Command)
  | pipe (first second : Command)
  | both (first second : Command)
  | either (first second : Command)
deriving Repr, Inhabited

end StyleTypings.Shell
