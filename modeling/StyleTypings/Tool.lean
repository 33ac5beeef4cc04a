import StyleTypings.Path
import StyleTypings.Shell.Run

namespace StyleTypings

open Text (Bytes)

namespace Tool

inductive Fault where
  | notFound
  | spawnFailed (fault : Disk.Fault)
  | processFailed (code : Int) (errors : String)
  | invalidOutput (text : String)
deriving DecidableEq, Repr, Inhabited

structure Wording where
  name : String
  missing : String

def Fault.message (w : Wording) : Fault → String
  | .notFound => w.missing
  | .spawnFailed fault => "failed to spawn " ++ w.name ++ ": " ++ fault.message
  | .processFailed code errors =>
    w.name ++ " exited with code " ++ toString code ++ ": " ++ errors
  | .invalidOutput text => w.name ++ " produced invalid output: " ++ text

def signalCode : Int := -1

def answer (f : Shell.Finished) : Except Fault String :=
  let failed (code : Int) : Except Fault String :=
    .error (.processFailed code (Text.trim (Text.lossy f.errors)))
  match f.ending with
  | .signal _ => failed signalCode
  | .code 0 =>
    match Text.decode? f.output with
    | some text => .ok text
    | none => .error (.invalidOutput (Text.utf8Complaint f.output))
  | .code n => failed n

/-- The first line of a script; what follows it is run. -/
def interpreter : Bytes := Text.encode "#!/bin/sh\n"

def script? (content : Bytes) : Option String :=
  if interpreter.isPrefixOf content then some (Text.lossy (content.drop interpreter.length))
  else none

/-- The file that is run for a name: one in the directories of the search path, unless the name has
a slash. -/
def program (d : Disk) (searchPath : List Bytes) (name : Bytes) :
    Except Disk.Fault (Bytes × Bytes) :=
  let fileAt (path : Bytes) : Except Disk.Fault (Bytes × Bytes) :=
    match d.node path true with
    | .ok (.file content true) => .ok (path, content)
    | .ok _ => .error .denied
    | .error e => .error e
  if name.contains Disk.slash then fileAt name
  else if name == [] then .error .noEntry
  else
    match searchPath.findSome? fun dir ↦ (fileAt (Disk.join dir name)).toOption with
    | some found => .ok found
    | none => .error .noEntry

def run (d : Disk) (searchPath : List Bytes) (name : String) (arguments : List String)
    (input : String) : Except Fault String :=
  match program d searchPath (Text.encode name) with
  | .error e => .error (.spawnFailed e)
  | .ok (path, content) =>
    match script? content with
    | none => .error (.spawnFailed (.other "Exec format error (os error 8)"))
    | some script =>
      answer (Shell.run d path (arguments.map Text.encode) (Text.encode input) 2 script)

def localDirectory : String := "node_modules/.bin"

def find? (d : Disk) (searchPath : List Bytes) (workspace : Option String) (name : String) :
    Option String :=
  let installed := workspace.map fun w ↦ Path.join (Path.join w localDirectory) name
  match installed.filter (d.holds <| Text.encode ·) with
  | some path => some path
  | none =>
    searchPath.findSome? fun dir ↦
      let path := Disk.join dir (Text.encode name)
      match d.node path true with
      | .ok (.file _ true) => Text.decode? path
      | _ => none

end Tool
end StyleTypings
