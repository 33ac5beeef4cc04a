import StyleTypings.Css.Stylesheet
import StyleTypings.Failure
import StyleTypings.Log.Event
import StyleTypings.Typings

namespace StyleTypings

structure WriteRequest where
  target : String
  contents : String
deriving DecidableEq, Repr, Inhabited

def WriteRequest.ofStylesheet (path contents : String) : WriteRequest :=
  ⟨Module.typingsPath path, contents⟩

/-- What lies outside of generating typings. -/
structure Capabilities (m : Type → Type) where
  compile : (source : String) → Form → (path : String) → m (Except Tool.Fault String)
  format : (text target : String) → m (Except Tool.Fault String)
  submit : WriteRequest → m Unit
  log : Log.Event → m Unit

inductive Outcome where
  /-- The path is not that of a module stylesheet. -/
  | skipped
  | submitted (target : String) (names : List String)
deriving DecidableEq, Repr, Inhabited

namespace Generator

variable {m : Type → Type} [Monad m]

def namesOf (css path : String) : Except Failure (List String) :=
  match Css.parse css with
  | .ok rules => .ok (Css.names rules)
  | .error failure => .error (.parse path failure)

def extract (c : Capabilities m) (content path : String) : m (Except Failure (List String)) :=
  match Dialect.ofPath? path with
  | none => return .error (.unsupportedDialect path ((Path.extension? path).getD ""))
  | some dialect =>
    match dialect.form? with
    | none => return namesOf content path
    | some form => do
      match ← c.compile content form path with
      | .error fault => return .error (.compile path fault)
      | .ok css => return namesOf css path

def formatted (c : Capabilities m) (text target : String) : m String := do
  match ← c.format text target with
  | .ok t => return t
  | .error fault =>
    c.log (.formattingFailed target (fault.message Tool.formatterWording))
    return text

def submitTypings (c : Capabilities m) (names : List String) (path : String) : m Outcome := do
  let target := Module.typingsPath path
  let contents ← formatted c (Typings.render names) target
  c.log (.generated target names.length)
  c.submit ⟨target, contents⟩
  return .submitted target names

/-- Generates the typings of the stylesheet at a path from its content. Whether they can be written
does not show here. -/
def generate (c : Capabilities m) (content path : String) : m (Except Failure Outcome) :=
  if Module.isModule path then do
    match ← extract c content path with
    | .error failure => return .error failure
    | .ok names => return .ok (← submitTypings c names path)
  else do
    c.log (.notModule path)
    return .ok .skipped

end Generator
end StyleTypings
