import StyleTypings.World

namespace StyleTypings

open Text (Bytes)

/-- What compiles stylesheets. It may look at the disk, and it reports events before it answers. -/
structure Compiler where
  compile : Disk → (source : String) → Form → (path : String) →
    List Log.Event × Except Tool.Fault String

structure Formatter where
  format : Disk → (text target : String) → Except Tool.Fault String

inductive Sink where
  | writer
  | output
  /-- They are only noted. -/
  | nowhere
deriving DecidableEq, Repr, Inhabited

structure Toolchain where
  compiler : Compiler
  formatter : Formatter
  sink : Sink

namespace Compiler

def unavailable : Compiler where
  compile _ _ _ _ := ([], .error .notFound)

def arguments (form : Form) (loadPath : Option String) : List String :=
  ["--stdin",
    match form with
    | .scss => "--no-indented"
    | .indented => "--indented",
    "--no-source-map", "--style=expanded"] ++
  loadPath.toList.map ("--load-path=" ++ ·)

def formName : Form → String
  | .scss => "Scss"
  | .indented => "Indented"

def run (d : Disk) (searchPath : List Bytes) (program : String) (source : String) (form : Form)
    (loadPath : Option String) : List Log.Event × Except Tool.Fault String :=
  ([.compiling program (formName form)],
    Tool.run d searchPath program (arguments form loadPath) source)

def loadPath? (path : String) : Option String :=
  (Path.parent? path).filter fun dir ↦ dir != ""

def ofProgram (searchPath : List Bytes) (program : String) : Compiler where
  compile d source form path := run d searchPath program source form (loadPath? path)

end Compiler

namespace Formatter

def passthrough : Formatter where
  format _ text _ := .ok text

def ofProgram (searchPath : List Bytes) (program : String) : Formatter where
  format d text target :=
    Tool.run d searchPath program ["--parser", "typescript", "--stdin-filepath", target] text

end Formatter

namespace Toolchain

def capabilities (t : Toolchain) : Capabilities App where
  compile source form path := do
    World.note (.compile source form path)
    let (events, answer) := t.compiler.compile (← get).disk source form path
    for e in events do World.say e
    return answer
  format text target := do
    World.note (.format text target)
    return t.formatter.format (← get).disk text target
  submit r := do
    World.note (.submit r)
    match t.sink with
    | .writer => World.submit r
    | .output => World.printRequest r
    | .nowhere => return
  log := World.say

def findCompiler (workspace : Option String) : App (Except Tool.Fault String) := do
  let w ← get
  return match Tool.find? w.disk w.searchPath workspace "sass" with
    | some program => .ok program
    | none => .error .notFound

def findFormatter? (workspace : Option String) : App (Option String) := do
  let w ← get
  return Tool.find? w.disk w.searchPath workspace "prettier"

/-- The tools of a workspace. Without a compiler only plain stylesheets get typings; without a
formatter typings stay as they are. -/
def detect (workspace : Option String) (format : Bool) (sink : Sink) : App Toolchain := do
  let searchPath := (← get).searchPath
  let compiler ← match ← findCompiler workspace with
    | .ok program => do
      World.say (.compilerFound program)
      pure (Compiler.ofProgram searchPath program)
    | .error fault => do
      World.say (.compilerMissing (fault.message Tool.compilerWording))
      pure Compiler.unavailable
  let found ← if format then findFormatter? workspace else pure none
  let formatter ← match found with
    | some program => do
      World.say (.formatterFound program)
      pure (Formatter.ofProgram searchPath program)
    | none => pure Formatter.passthrough
  return ⟨compiler, formatter, sink⟩

end Toolchain
end StyleTypings
