import StyleTypings.Text.Utf8

namespace StyleTypings.Watch

open Text (Bytes)

/-- What happened to the paths of an event. -/
inductive EventKind where
  | any
  | access
  | create
  | modify
  | remove
  | other
deriving DecidableEq, Repr, Inhabited

structure Event where
  kind : EventKind
  paths : List Bytes
deriving DecidableEq, Repr, Inhabited

def Event.counts (event : Event) : Bool :=
  match event.kind with
  | .create => true
  | .modify => true
  | _ => false

end StyleTypings.Watch
