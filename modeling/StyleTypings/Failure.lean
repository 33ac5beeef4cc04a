import StyleTypings.Css.Failure
import StyleTypings.Dialect
import StyleTypings.Pattern.Complaint
import StyleTypings.Tool

namespace StyleTypings

def Tool.compilerWording : Tool.Wording where
  name := "sass"
  missing := "sass binary not found (install the `sass` npm package or put Dart Sass on PATH)"

def Tool.formatterWording : Tool.Wording where
  name := "formatter"
  missing := "formatter not found"

inductive Failure where
  | unsupportedDialect (path extension : String)
  | parse (path : String) (failure : Css.Failure)
  | compile (path : String) (fault : Tool.Fault)
  /-- A file that was listed is gone. -/
  | missingFile (path : String)
  | read (path : String) (fault : Disk.Fault)
  | walk (path : String) (fault : Disk.Fault)
  | invalidPattern (pattern : String) (complaint : Pattern.Complaint)
deriving Repr

namespace Failure

def walkText (path : String) (fault : Disk.Fault) : String :=
  "IO error for operation on " ++ path ++ ": " ++ fault.message

def message : Failure → String
  | .unsupportedDialect path e => path ++ ": invalid stylesheet type `" ++ e ++ "`"
  | .parse path f =>
    path ++ ":" ++ toString f.pos.line ++ ":" ++ toString f.pos.column ++ ": " ++ f.cause.message
  | .compile path fault =>
    path ++ ": failed to compile stylesheet: " ++ fault.message Tool.compilerWording
  | .missingFile path => "file " ++ path ++ " no longer exists"
  | .read path fault => "failed to read " ++ path ++ ": " ++ fault.message
  | .walk path fault => "failed to walk " ++ path ++ ": " ++ walkText path fault
  | .invalidPattern pattern complaint =>
    "invalid exclude pattern `" ++ pattern ++ "`: " ++ complaint.message pattern

/-- Why a failure came about, nearest cause first. -/
def causes : Failure → List String
  | .unsupportedDialect _ _ => []
  | .parse _ _ => []
  | .compile _ fault =>
    fault.message Tool.compilerWording ::
      (match fault with
        | .spawnFailed e => [e.message]
        | _ => [])
  | .missingFile _ => []
  | .read _ fault => [fault.message]
  | .walk path fault => [walkText path fault, fault.message]
  | .invalidPattern pattern complaint => [complaint.message pattern]

end Failure
end StyleTypings
