import StyleTypings.Disk.Lookup
import StyleTypings.Writer

namespace StyleTypings

open Text (Bytes)

inductive Thread where
  | main
  | writer
deriving DecidableEq, Repr, Inhabited

inductive Call where
  | compile (source : String) (form : Form) (path : String)
  | format (text target : String)
  | submit (request : WriteRequest)
deriving DecidableEq, Repr, Inhabited

/-- What a running program sees and changes. The writer works beside it, as far as the schedule says
between two steps of the program. -/
structure World where
  disk : Disk := {}
  searchPath : List Bytes := []
  output : String := ""
  /-- Nothing more fits behind the output. -/
  outputFull : Bool := false
  errors : String := ""
  /-- The events so far, oldest first. -/
  log : List (Thread × Log.Event) := []
  calls : List Call := []
  writer : Writer := {}
  failures : List WriteFailure := []
  /-- The next report of a failure fails itself. -/
  reportPanics : Bool := false
  /-- How many writes get done at each of the next points where the writer may work; behind the end
  of the list it is all that wait. -/
  schedule : List Nat := []
deriving Repr, Inhabited

abbrev App := StateM World

namespace World

def raise (thread : Thread) (e : Log.Event) : App Unit :=
  modify fun w ↦ { w with log := w.log ++ [(thread, e)] }

def say (e : Log.Event) : App Unit := raise .main e

def note (c : Call) : App Unit := modify fun w ↦ { w with calls := w.calls ++ [c] }

def print (text : String) : App (Except Disk.Fault Unit) := do
  if (← get).outputFull then return .error .noSpace
  modify fun w ↦ { w with output := w.output ++ text }
  return .ok ()

def printError (line : String) : App Unit :=
  modify fun w ↦ { w with errors := w.errors ++ line ++ "\n" }

/-- Reports a failed write; the answer is whether the report itself went well. -/
def report (thread : Thread) (f : WriteFailure) : App Bool := do
  if (← get).reportPanics then
    modify fun w ↦ { w with reportPanics := false }
    return false
  modify fun w ↦ { w with failures := w.failures ++ [f] }
  raise thread (.writeFailed f.target f.fault.message)
  return true

/-- One step of the writer: it attempts the oldest request. -/
def work : App Unit := do
  match (← get).writer.next? with
  | none => return
  | some (r, writer) =>
    modify fun w ↦ { w with writer }
    match (← get).disk.write (Text.encode r.target) (Text.encode r.contents) with
    | .ok disk =>
      modify fun w ↦ { w with disk }
      raise .writer (.wrote r.target)
    | .error fault =>
      if !(← report .writer ⟨r.target, fault⟩) then
        modify fun w ↦ { w with writer := w.writer.die }

def workFor : Nat → App Unit
  | 0 => return
  | n + 1 => do
    work
    workFor n

def drain : App Unit := do workFor (← get).writer.queue.length

def pause : App Unit := do
  match (← get).schedule with
  | [] => drain
  | n :: later => do
    modify fun w ↦ { w with schedule := later }
    workFor n

def submit (r : WriteRequest) : App Unit := do
  match (← get).writer.submit? r with
  | some writer => do
    modify fun w ↦ { w with writer }
    pause
  | none => discard (report .main ⟨r.target, Writer.rejection⟩)

def finish : App Unit := do
  if (← get).writer.taking then
    modify fun w ↦ { w with writer := w.writer.close }
    drain
    if !(← get).writer.alive then say .writerPanicked

/-- What is printed of a request instead of writing it: trailing white space does not count. -/
def printed (r : WriteRequest) : String :=
  "// " ++ r.target ++ "\n" ++ Text.trimEnd r.contents ++ "\n\n"

def printRequest (r : WriteRequest) : App Unit := do
  match ← print (printed r) with
  | .ok () => return
  | .error fault => discard (report .main ⟨r.target, fault⟩)

end World
end StyleTypings
