import StyleTypings.Arguments
import StyleTypings.Config.File
import StyleTypings.Log.Filter
import StyleTypings.Walk
import StyleTypings.Watch
import StyleTypings.Watch.Change

namespace StyleTypings.Run

open Text (Bytes)

def plural (count : Nat) (one many : String) : String := if count == 1 then one else many

def summaryLine (generated excluded milliseconds : Nat) : String :=
  "Generated " ++ toString generated ++ " typings " ++ plural generated "file" "files" ++
    (if excluded == 0 then ""
      else " (" ++ toString excluded ++ " " ++ plural excluded "directory" "directories" ++
        " excluded)") ++
    " in " ++ toString milliseconds ++ "ms"

inductive Failed where
  | generation (f : Failure)
  | workspace (reason : String)
  /-- The output takes no more, and the program panics. -/
  | output (fault : Disk.Fault)
deriving Repr

namespace Failed

def message : Failed → String
  | .generation f => f.message
  | .workspace reason => "invalid working directory: " ++ reason
  | .output fault => "failed printing to stdout: " ++ fault.message

def causes : Failed → List String
  | .generation f => f.causes
  | .workspace _ => []
  | .output _ => []

def code? : Failed → Option String
  | .generation _ => some "css_typings::generate"
  | .workspace _ => some "css_typings::workspace"
  | .output _ => none

def exitCode : Failed → Nat
  | .generation _ => 1
  | .workspace _ => 1
  | .output _ => 101

def causeLines : List String → List String
  | [] => []
  | [c] => ["  ╰─▶ " ++ c]
  | c :: cs => ("  ├─▶ " ++ c) :: causeLines cs

def report (f : Failed) : String :=
  match f.code? with
  | none => f.message ++ "\n"
  | some code =>
    "Error: " ++ code ++ "\n\n  × " ++ f.message ++ "\n" ++
      String.join ((causeLines f.causes).map (· ++ "\n"))

end Failed

structure Done where
  summary : Summary
  toolchain : Toolchain
  exclusion : Exclusion
  stylesDir : String
  watching : Bool

def workingDirectory (d : Disk) : Except Failed String :=
  match d.workingDirectory with
  | .error fault => .error (.workspace fault.message)
  | .ok path =>
    match Text.decode? path with
    | some text => .ok text
    | none => .error (.workspace ("PathBuf contains invalid UTF-8: " ++ Text.lossy path))

def configure (a : Arguments) (cwd workspace : String) : App Config := do
  let file ← match a.config with
    | some path => Config.loadFile (Path.resolve cwd path)
    | none => Config.load workspace
  return a.merge file cwd workspace

/-- Walks the styles directory with the tools of the workspace. Whatever happens, nothing is left
to write when the run ends. -/
def generate (a : Arguments) (config : Config) (exclusion : Exclusion) (workspace : String) :
    App (Except Failed Done) := do
  let stylesDir := config.stylesDir.getD workspace
  let toolchain ←
    Toolchain.detect (some workspace) config.format (if a.emit then .output else .writer)
  match ← Walk.fromDirectory toolchain exclusion stylesDir with
  | .error f => do
    World.finish
    return .error (.generation f)
  | .ok summary => return .ok ⟨summary, toolchain, exclusion, stylesDir, a.watch⟩

/-- Tells of a walk that took so many milliseconds, and begins to watch if that is asked for. -/
def announce (a : Arguments) (milliseconds : Nat) (done : Done) : App (Except Failed Done) := do
  let line :=
    summaryLine done.summary.generated.length done.summary.excluded.length milliseconds
  if a.watch then
    World.printError line
    World.printError ("Watching " ++ done.stylesDir ++ " for changes... (Ctrl+C to stop)")
    return .ok done
  World.finish
  if a.emit then
    World.printError line
    return .ok done
  match ← World.print (line ++ "\n") with
  | .error fault => return .error (.output fault)
  | .ok () => return .ok done

def run (a : Arguments) (milliseconds : Nat) : App (Except Failed Done) := do
  match workingDirectory (← get).disk with
  | .error f => return .error f
  | .ok cwd =>
    let workspace := Path.resolve cwd a.workspace
    let config ← configure a cwd workspace
    match Exclusion.ofPattern config.excludeDirs with
    | .error f => return .error (.generation f)
    | .ok exclusion =>
      match ← generate a config exclusion workspace with
      | .error f => return .error f
      | .ok done => announce a milliseconds done

def Done.watcher? (done : Done) (d : Disk) : Option Watch.Watcher :=
  (Watch.target? d (Text.encode done.stylesDir)).map fun (home, _) ↦ ⟨done.stylesDir, home⟩

/-- Acts on the events that a change of the disk has raised. A run that cannot print ends, and its
writer is finished. -/
def Done.receive (done : Done) : List Watch.Event → App (Except Failed Unit)
  | [] => return .ok ()
  | event :: later => do
    match ← Watch.receive done.toolchain done.exclusion done.stylesDir event with
    | .ok () => done.receive later
    | .error fault => do
      World.finish
      return .error (.output fault)

def Done.follow (done : Done) (watcher : Watch.Watcher) (change : Watch.Change) :
    App (Except Failed Unit) := do
  let (disk, events) := change.apply watcher (← get).disk
  modify fun w ↦ { w with disk }
  done.receive events

inductive Ending where
  | refused (r : Arguments.Refusal)
  | failed (f : Failed)
  | succeeded (done : Done)

namespace Ending

def code : Ending → Nat
  | .refused .help => 0
  | .refused .version => 0
  | .refused _ => 2
  | .failed f => f.exitCode
  | .succeeded _ => 0

/-- Which events are shown: a filter counts if it can be read. -/
def filter (words : List String) (given : Option String) : Log.Filter :=
  let verbose := match Arguments.read words with
    | .ok a => a.verbose
    | .error _ => false
  (given.bind Log.Filter.read?).getD (Log.Filter.standard verbose)

end Ending

def program (words : List String) (milliseconds : Nat) : App Ending := do
  match Arguments.read words with
  | .error .help => do
    discard (World.print Arguments.helpText)
    return .refused .help
  | .error .version => do
    discard (World.print Arguments.versionText)
    return .refused .version
  | .error r => do
    World.printError r.message
    return .refused r
  | .ok a =>
    match ← run a milliseconds with
    | .error f => do
      modify fun w ↦ { w with errors := w.errors ++ f.report }
      return .failed f
    | .ok done => return .succeeded done

def logLines (f : Log.Filter) (w : World) : List String :=
  (w.log.filter fun (_, e) ↦ f.shows e).map fun (_, e) ↦ e.line

end StyleTypings.Run
