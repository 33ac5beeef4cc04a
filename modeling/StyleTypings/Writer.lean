import StyleTypings.Disk.Fault
import StyleTypings.Generator

namespace StyleTypings

structure WriteFailure where
  target : String
  fault : Disk.Fault
deriving DecidableEq, Repr, Inhabited

def WriteFailure.message (f : WriteFailure) : String :=
  "failed to write " ++ f.target ++ ": " ++ f.fault.message

/-- A thread that writes files in the order of their requests, until it is finished, or until the
report of a failed write takes it along. -/
structure Writer where
  taking : Bool := true
  alive : Bool := true
  /-- The requests that are accepted and not attempted, oldest first. -/
  queue : List WriteRequest := []
deriving DecidableEq, Repr, Inhabited

namespace Writer

def accepts (w : Writer) : Bool := w.taking && w.alive

def submit? (w : Writer) (r : WriteRequest) : Option Writer :=
  if w.accepts then some { w with queue := w.queue ++ [r] } else none

def rejection : Disk.Fault := .other "typings writer has shut down"

def next? (w : Writer) : Option (WriteRequest × Writer) :=
  match w.queue with
  | [] => none
  | r :: rest => if w.alive then some (r, { w with queue := rest }) else none

def close (w : Writer) : Writer := { w with taking := false }

/-- The thread dies; what it has not attempted is lost. -/
def die (w : Writer) : Writer := { w with alive := false, queue := [] }

end Writer
end StyleTypings
