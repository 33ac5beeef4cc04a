import StyleTypings.Disk.Fault
import StyleTypings.Disk.Node

namespace StyleTypings.Disk

open Text (Bytes)

def slash : UInt8 := 47

def pieces : Bytes → List Name
  | [] => [[]]
  | b :: rest =>
    if b == slash then [] :: pieces rest
    else
      match pieces rest with
      | [] => [[b]]
      | p :: ps => (b :: p) :: ps

def isAbsolute (path : Bytes) : Bool := path.head? == some slash

def join (base : Bytes) (name : Name) : Bytes :=
  if isAbsolute name then name
  else if base.getLast?.all (· == slash) then base ++ name
  else base ++ slash :: name

def longestName : Nat := 255

def longestPath : Nat := 4095

def mostLinks : Nat := 40

inductive Destination where
  | found (location : Location) (node : Node)
  /-- Its directory is there and the last name is not; `slashed` says whether slashes follow it. -/
  | missing (location : Location) (slashed : Bool)
deriving Repr, Inhabited

/-- Follows names from the directory at a location. A link on the way is replaced by what it says,
at most `links` times; one in the last place is followed if `followLast` says so. -/
def follow (top : Node) (followLast : Bool) (links : Nat) (here : Location) :
    List Name → Except Fault Destination
  | [] =>
    match top.at? here with
    | some n => .ok (.found here n)
    | none => .error .noEntry
  | piece :: rest =>
    match top.at? here with
    | some (.dir es) =>
      if piece == [] || piece == [46] then follow top followLast links here rest
      else if piece == [46, 46] then follow top followLast links here.dropLast rest
      else if piece.length > longestName then .error .nameTooLong
      else
        let there := here ++ [piece]
        match es.lookup piece with
        | none =>
          if rest.all (· == []) then .ok (.missing there (rest != []))
          else .error .noEntry
        | some (.dir _) => follow top followLast links there rest
        | some (.file content executable) =>
          if rest == [] then .ok (.found there (.file content executable))
          else .error .notDirectory
        | some (.link target) =>
          if rest == [] && !followLast then .ok (.found there (.link target))
          else
            match links with
            | 0 => .error .linkLoop
            | links + 1 =>
              follow top followLast links (if isAbsolute target then [] else here)
                (pieces target ++ rest)
    | some _ => .error .notDirectory
    | none => .error .noEntry
termination_by names => (links, names.length)

end Disk

/-- A tree and the location of the working directory in it. -/
structure Disk where
  top : Disk.Node := .dir []
  here : Disk.Location := []
  /-- The files that cannot be read and the directories that cannot be listed, with what opening
  them fails with. -/
  barred : List (Disk.Location × Disk.Fault) := []
deriving Repr, Inhabited

namespace Disk

open Text (Bytes)

def lookup (d : Disk) (path : Bytes) (followLast : Bool) : Except Fault Destination :=
  if path == [] then .error .noEntry
  else if path.contains 0 then .error .nulInName
  else if path.length > longestPath then .error .nameTooLong
  else follow d.top followLast mostLinks (if isAbsolute path then [] else d.here) (pieces path)

def node (d : Disk) (path : Bytes) (followLast : Bool) : Except Fault Node :=
  match d.lookup path followLast with
  | .ok (.found _ n) => .ok n
  | .ok (.missing _ _) => .error .noEntry
  | .error e => .error e

def holds (d : Disk) (path : Bytes) : Bool := (d.node path true).isOk

def bar? (d : Disk) (path : Bytes) : Option Fault :=
  match d.lookup path true with
  | .ok (.found location _) => d.barred.lookup location
  | _ => none

def contents (d : Disk) (path : Bytes) : Except Fault Bytes :=
  match d.node path true with
  | .ok (.file content _) => .ok content
  | .ok _ => .error .isDirectory
  | .error e => .error e

def read (d : Disk) (path : Bytes) : Except Fault Bytes :=
  match d.bar? path with
  | some fault => .error fault
  | none => d.contents path

def readText (d : Disk) (path : Bytes) : Except Fault String :=
  match d.read path with
  | .ok content =>
    match Text.decode? content with
    | some text => .ok text
    | none => .error .notText
  | .error e => .error e

def list (d : Disk) (path : Bytes) : Except Fault (List (Name × Kind)) :=
  match d.node path true with
  | .ok (.dir es) =>
    match d.bar? path with
    | some fault => .error fault
    | none => .ok (es.map fun (name, n) ↦ (name, n.kind))
  | .ok _ => .error .notDirectory
  | .error e => .error e

/-- Writes a file: what it held is gone, and it is made if it is not there. -/
def write (d : Disk) (path content : Bytes) : Except Fault Disk :=
  match d.lookup path true with
  | .ok (.found location (.file _ executable)) =>
    .ok { d with top := d.top.put location (.file content executable) }
  | .ok (.found _ _) => .error .isDirectory
  | .ok (.missing _ true) => .error .isDirectory
  | .ok (.missing location false) =>
    .ok { d with top := d.top.put location (.file content false) }
  | .error e => .error e

def pathOf : Location → Bytes
  | [] => [slash]
  | names => names.flatMap (slash :: ·)

def workingDirectory (d : Disk) : Except Fault Bytes :=
  if (d.top.at? d.here).isSome then .ok (pathOf d.here) else .error .noEntry

end Disk
end StyleTypings
