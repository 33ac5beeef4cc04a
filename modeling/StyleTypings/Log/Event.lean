namespace StyleTypings.Log

/-- How much an event matters, most important first. -/
inductive Level where
  | error
  | warn
  | info
  | debug
  | trace
deriving DecidableEq, Repr, Inhabited

def Level.rank : Level → Nat
  | .error => 1
  | .warn => 2
  | .info => 3
  | .debug => 4
  | .trace => 5

def Level.name : Level → String
  | .error => "ERROR"
  | .warn => "WARN"
  | .info => "INFO"
  | .debug => "DEBUG"
  | .trace => "TRACE"

inductive Event where
  | notModule (path : String)
  | formattingFailed (target error : String)
  | generated (target : String) (names : Nat)
  | directoryExcluded (dir : String)
  | pathNotText (path : String)
  | wrote (target : String)
  | writeFailed (target error : String)
  | writerPanicked
  | configUnusable (path error : String)
  | compiling (compiler syntaxName : String)
  | compilerFound (compiler : String)
  | compilerMissing (error : String)
  | formatterFound (formatter : String)
  | changedFileMissing (path : String)
  | directoryDone (dir : String) (count : Nat)
deriving DecidableEq, Repr, Inhabited

namespace Event

def level : Event → Level
  | .notModule _ => .debug
  | .formattingFailed _ _ => .debug
  | .generated _ _ => .info
  | .directoryExcluded _ => .debug
  | .pathNotText _ => .debug
  | .wrote _ => .debug
  | .writeFailed _ _ => .error
  | .writerPanicked => .error
  | .configUnusable _ _ => .warn
  | .compiling _ _ => .debug
  | .compilerFound _ => .debug
  | .compilerMissing _ => .debug
  | .formatterFound _ => .debug
  | .changedFileMissing _ => .debug
  | .directoryDone _ _ => .info

def area : Event → String
  | .notModule _ => "css_typings::generator"
  | .formattingFailed _ _ => "css_typings::generator"
  | .generated _ _ => "css_typings::generator"
  | .directoryExcluded _ => "css_typings::walk"
  | .pathNotText _ => "css_typings::walk"
  | .wrote _ => "css_typings::writer"
  | .writeFailed _ _ => "css_typings::writer"
  | .writerPanicked => "css_typings::writer"
  | .configUnusable _ _ => "css_typings::config"
  | .compiling _ _ => "sass_runner::runner"
  | .compilerFound _ => "css_typings::generator"
  | .compilerMissing _ => "css_typings::generator"
  | .formatterFound _ => "css_typings::generator"
  | .changedFileMissing _ => "css_typings::orchestrator"
  | .directoryDone _ _ => "css_typings"

def message : Event → String
  | .notModule _ => "not a module stylesheet, skipping"
  | .formattingFailed _ _ => "formatting failed, writing unformatted typings"
  | .generated _ _ => "generated typings"
  | .directoryExcluded _ => "excluded directory"
  | .pathNotText _ => "skipping non UTF-8 path"
  | .wrote _ => "wrote typings"
  | .writeFailed _ _ => "failed to write typings"
  | .writerPanicked => "typings writer thread panicked"
  | .configUnusable _ _ => "failed to load configuration, using defaults"
  | .compiling _ _ => "compiling stylesheet"
  | .compilerFound _ => "using sass compiler"
  | .compilerMissing _ => "SCSS/SASS modules will fail to compile"
  | .formatterFound _ => "using prettier"
  | .changedFileMissing _ => "changed file no longer exists"
  | .directoryDone _ _ => "generated typings for styles directory"

def fields : Event → List (String × String)
  | .notModule path => [("path", path)]
  | .formattingFailed target error => [("target_file", target), ("error", error)]
  | .generated target names => [("target_file", target), ("selectors", toString names)]
  | .directoryExcluded dir => [("dir", dir)]
  | .pathNotText path => [("path", path)]
  | .wrote target => [("target_file", target)]
  | .writeFailed target error => [("target_file", target), ("error", error)]
  | .writerPanicked => []
  | .configUnusable path error => [("path", path), ("error", error)]
  | .compiling compiler syntaxName => [("sass", compiler), ("syntax", syntaxName)]
  | .compilerFound compiler => [("sass", compiler)]
  | .compilerMissing error => [("error", error)]
  | .formatterFound formatter => [("prettier", formatter)]
  | .changedFileMissing path => [("path", path)]
  | .directoryDone dir count => [("dir", dir), ("generated", toString count)]

def line (e : Event) : String :=
  e.level.name ++ " " ++ e.message ++
    String.join (e.fields.map fun (name, value) ↦ " " ++ name ++ "=" ++ value)

end Event
end StyleTypings.Log
