import StyleTypings.Disk.Lookup

namespace StyleTypings.Disk

open Text (Bytes)

def leadingPaths (done : Bytes) : List Name → List Bytes
  | [] => []
  | p :: ps =>
    let here := done ++ p
    here :: leadingPaths (here ++ [slash]) ps

def makeDir (d : Disk) (path : Bytes) : Disk :=
  match d.lookup path true with
  | .ok (.missing location _) => { d with top := d.top.put location (.dir []) }
  | _ => d

def makeDirs (d : Disk) (path : Bytes) : Disk :=
  (leadingPaths [] (pieces path)).foldl makeDir d

def directoryOf (path : Bytes) : Bytes :=
  match (path.reverse.dropWhile (· != slash)).drop 1 with
  | [] => if isAbsolute path then [slash] else []
  | reversed => reversed.reverse

/-- Places a node at a path. A file takes the place of what a link there leads to; all else takes
the place of the link. -/
def place (d : Disk) (path : Bytes) (n : Node) : Disk :=
  let d := d.makeDirs (directoryOf path)
  match n with
  | .dir _ => d.makeDirs path
  | .file content executable =>
    match d.lookup path true with
    | .ok (.found location (.file _ before)) =>
      { d with top := d.top.put location (.file content (executable || before)) }
    | .ok (.missing location _) => { d with top := d.top.put location n }
    | _ => d
  | .link _ =>
    match d.lookup path false with
    | .ok (.found location _) => { d with top := d.top.put location n }
    | .ok (.missing location _) => { d with top := d.top.put location n }
    | .error _ => d

def remove (d : Disk) (path : Bytes) : Disk :=
  match d.lookup path false with
  | .ok (.found location _) => { d with top := d.top.erase location }
  | _ => d

def filesBelow (d : Disk) (dir : Location) : List (Bytes × Bytes) :=
  match d.top.at? dir with
  | some n => (n.files []).map fun (names, content) ↦ ((pathOf names).drop 1, content)
  | none => []

end StyleTypings.Disk
