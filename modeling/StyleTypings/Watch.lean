import StyleTypings.Walk
import StyleTypings.Watch.Event

namespace StyleTypings.Watch

open Text (Bytes)

def concerns (exclusion : Exclusion) (root path : String) : Bool :=
  Module.isModule path && !exclusion.coversAncestor path root

def distinctPaths (seen : List String) : List String → List String
  | [] => []
  | p :: rest =>
    if seen.any (Path.same · p) then distinctPaths seen rest
    else p :: distinctPaths (p :: seen) rest

/-- The module stylesheets among the paths of an event, each one once. -/
def changedStylesheets (paths : List Bytes) (root : String) (exclusion : Exclusion) : List String :=
  distinctPaths [] ((paths.filterMap Text.decode?).filter (concerns exclusion root))

/-- Acts on what was read of a changed file. The answer says whether the output took it, without
which the program does not go on. -/
def update (t : Toolchain) (path : String) (found : Except Disk.Fault String) :
    App (Except Disk.Fault Unit) :=
  match found with
  | .error .noEntry => do
    World.say (.changedFileMissing path)
    return .ok ()
  | .error fault => do
    World.printError ("Error: failed to read " ++ path ++ ": " ++ fault.message)
    return .ok ()
  | .ok content => do
    match ← Generator.generate t.capabilities content path with
    | .ok (.submitted target _) => World.print ("Updated " ++ target ++ "\n")
    | .ok .skipped => return .ok ()
    | .error f => do
      World.printError ("Error: " ++ f.message)
      return .ok ()

def regenerate (t : Toolchain) (path : String) : App (Except Disk.Fault Unit) := do
  World.pause
  update t path ((← get).disk.readText (Text.encode path))

def regenerateAll (t : Toolchain) : List String → App (Except Disk.Fault Unit)
  | [] => return .ok ()
  | path :: rest => do
    match ← regenerate t path with
    | .error fault => return .error fault
    | .ok () => regenerateAll t rest

def react (t : Toolchain) (exclusion : Exclusion) (root : String) (paths : List Bytes) :
    App (Except Disk.Fault Unit) :=
  regenerateAll t (changedStylesheets paths root exclusion)

def Event.stylesheets (event : Event) (root : String) (exclusion : Exclusion) : List String :=
  if event.counts then changedStylesheets event.paths root exclusion else []

def receive (t : Toolchain) (exclusion : Exclusion) (root : String) (event : Event) :
    App (Except Disk.Fault Unit) :=
  if event.counts then react t exclusion root event.paths else return .ok ()

end StyleTypings.Watch
