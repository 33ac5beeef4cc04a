import StyleTypings.Proofs.Text.Encoding
import StyleTypings.Proofs.World.Output
import StyleTypings.Run

namespace StyleTypings.Run

open Text (Bytes encode)
open World (run_bind run_get run_pure run_say)

/-- What a run is going to walk, and with which tools. -/
structure Plan where
  stylesDir : String
  exclusion : Exclusion
  compiler : Compiler
  formatter : Formatter

def Plan.toolchain (p : Plan) (sink : Sink) : Toolchain := ⟨p.compiler, p.formatter, sink⟩

def fileConfig (d : Disk) (path : String) : Config := (Config.readFile d path).toOption.getD {}

def workspaceConfig (d : Disk) (workspace : String) : Config :=
  let path := Path.join workspace Config.fileName
  if d.holds (encode path) then fileConfig d path else {}

def configOf (a : Arguments) (d : Disk) (cwd workspace : String) : Config :=
  let file := match a.config with
    | some path => fileConfig d (Path.resolve cwd path)
    | none => workspaceConfig d workspace
  a.merge file cwd workspace

def compilerOf (d : Disk) (searchPath : List Bytes) (workspace : String) : Compiler :=
  match Tool.find? d searchPath (some workspace) "sass" with
  | some program => .ofProgram searchPath program
  | none => .unavailable

def formatterOf (d : Disk) (searchPath : List Bytes) (workspace : String) (format : Bool) :
    Formatter :=
  match if format then Tool.find? d searchPath (some workspace) "prettier" else none with
  | some program => .ofProgram searchPath program
  | none => .passthrough

def plan (a : Arguments) (d : Disk) (searchPath : List Bytes) : Except Failed Plan :=
  match workingDirectory d with
  | .error f => .error f
  | .ok cwd =>
    let workspace := Path.resolve cwd a.workspace
    let config := configOf a d cwd workspace
    match Exclusion.ofPattern config.excludeDirs with
    | .error f => .error (.generation f)
    | .ok exclusion => .ok {
        stylesDir := config.stylesDir.getD workspace
        exclusion
        compiler := compilerOf d searchPath workspace
        formatter := formatterOf d searchPath workspace config.format }

def Plan.perform (p : Plan) (a : Arguments) (milliseconds : Nat) : App (Except Failed Done) := do
  let toolchain := p.toolchain (if a.emit then .output else .writer)
  match ← Walk.fromDirectory toolchain p.exclusion p.stylesDir with
  | .error f => do
    World.finish
    return .error (.generation f)
  | .ok summary => announce a milliseconds ⟨summary, toolchain, p.exclusion, p.stylesDir, a.watch⟩

/-- A world in which nothing was done yet, and in which failures are reported without ado. -/
structure Fresh (w : World) : Prop where
  writer : w.writer = {}
  calls : w.calls = []
  calm : w.reportPanics = false

variable (w : World)

theorem run_loadFile (path : String) :
    ∃ log, (Config.loadFile path).run w = (fileConfig w.disk path, { w with log }) := by
  unfold Config.loadFile fileConfig
  rw [run_bind, run_get]
  cases Config.readFile w.disk path with
  | ok config => exact ⟨w.log, rfl⟩
  | error fault => exact ⟨_, rfl⟩

theorem run_load (workspace : String) :
    ∃ log, (Config.load workspace).run w = (workspaceConfig w.disk workspace, { w with log }) := by
  unfold Config.load workspaceConfig
  rw [run_bind, run_get]
  dsimp only
  split
  · exact run_loadFile w _
  · exact ⟨w.log, rfl⟩

theorem run_configure (a : Arguments) (cwd workspace : String) :
    ∃ log, (configure a cwd workspace).run w =
      (configOf a w.disk cwd workspace, { w with log }) := by
  unfold configure configOf
  cases a.config with
  | some path =>
    obtain ⟨log, hload⟩ := run_loadFile w (Path.resolve cwd path)
    refine ⟨log, ?_⟩
    dsimp only
    rw [run_bind, hload]
    rfl
  | none =>
    obtain ⟨log, hload⟩ := run_load w workspace
    refine ⟨log, ?_⟩
    dsimp only
    rw [run_bind, hload]
    rfl

theorem run_detect (workspace : String) (format : Bool) (sink : Sink) :
    ∃ log, (Toolchain.detect (some workspace) format sink).run w =
      (⟨compilerOf w.disk w.searchPath workspace,
        formatterOf w.disk w.searchPath workspace format, sink⟩, { w with log }) := by
  unfold Toolchain.detect Toolchain.findCompiler Toolchain.findFormatter? compilerOf formatterOf
  cases format
  all_goals
    simp only [run_bind, run_get, run_pure, if_true, if_false, Bool.false_eq_true]
    cases Tool.find? w.disk w.searchPath (some workspace) "sass"
    all_goals
      simp only [run_bind, run_get, run_pure, run_say]
      cases Tool.find? w.disk w.searchPath (some workspace) "prettier"
      all_goals exact ⟨_, rfl⟩

theorem run_eq (a : Arguments) (milliseconds : Nat) :
    ∃ log, (run a milliseconds).run w =
      match plan a w.disk w.searchPath with
      | .error f => (.error f, { w with log })
      | .ok p => (p.perform a milliseconds).run { w with log } := by
  unfold run plan
  rw [run_bind, run_get]
  dsimp only
  cases workingDirectory w.disk with
  | error f => exact ⟨w.log, rfl⟩
  | ok cwd =>
    obtain ⟨log, hconfigure⟩ := run_configure w a cwd (Path.resolve cwd a.workspace)
    dsimp only
    rw [run_bind, hconfigure]
    dsimp only
    generalize configOf a w.disk cwd (Path.resolve cwd a.workspace) = config
    cases Exclusion.ofPattern config.excludeDirs with
    | error f => exact ⟨log, rfl⟩
    | ok exclusion =>
      obtain ⟨log', hdetect⟩ := run_detect { w with log } (Path.resolve cwd a.workspace)
        config.format (if a.emit then .output else .writer)
      refine ⟨log', ?_⟩
      simp only [generate, Plan.perform, run_bind, hdetect, Plan.toolchain]
      generalize (Walk.fromDirectory _ _ _).run _ = walked
      obtain ⟨answer, w'⟩ := walked
      cases answer <;> rfl

def alone : Arguments := { workspace := "/s" }

def alonePlan : Plan := ⟨"/s", none, .unavailable, .passthrough⟩

/-- A disk whose workspace has no configuration and no tools. -/
structure Bare (d : Disk) : Prop where
  here : d.workingDirectory = .ok (encode "/")
  config : d.holds (encode "/s/css-typings.json") = false
  compiler : d.holds (encode "/s/node_modules/.bin/sass") = false
  formatter : d.holds (encode "/s/node_modules/.bin/prettier") = false

theorem find?_alone {d : Disk} {name path : String}
    (hpath : Path.join "/s/node_modules/.bin" name = path)
    (hholds : d.holds (encode path) = false) :
    Tool.find? d [] (some "/s") name = none := by
  have hbin : Path.join "/s" Tool.localDirectory = "/s/node_modules/.bin" := by decide +kernel
  simp [Tool.find?, hbin, hpath, Option.filter_some, hholds]

theorem Bare.plan_alone {d : Disk} (h : Bare d) : plan alone d [] = .ok alonePlan := by
  have hcwd : workingDirectory d = .ok "/" := by
    rw [workingDirectory, h.here]
    simp only [Text.decode?_eq_some_iff.2 rfl]
  have hworkspace : Path.resolve "/" alone.workspace = "/s" := by decide +kernel
  have hconfig : configOf alone d "/" "/s" = {} := by
    have hpath : Path.join "/s" Config.fileName = "/s/css-typings.json" := by decide +kernel
    simp [configOf, workspaceConfig, hpath, h.config, Arguments.merge, alone]
  have hsass : Tool.find? d [] (some "/s") "sass" = none :=
    find?_alone (by decide +kernel) h.compiler
  have hprettier : Tool.find? d [] (some "/s") "prettier" = none :=
    find?_alone (by decide +kernel) h.formatter
  simp [plan, hcwd, hworkspace, hconfig, Exclusion.ofPattern, compilerOf, formatterOf, hsass,
    hprettier, alonePlan]

end StyleTypings.Run
