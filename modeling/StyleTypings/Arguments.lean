import StyleTypings.Config

namespace StyleTypings

structure Arguments where
  workspace : String := "."
  stylesDir : Option String := none
  excludeDirs : Option String := none
  config : Option String := none
  noFormat : Bool := false
  emit : Bool := false
  watch : Bool := false
  verbose : Bool := false
deriving DecidableEq, Repr, Inhabited

namespace Arguments

inductive Setting where
  | workspace
  | stylesDir
  | excludeDirs
  | config
deriving DecidableEq, Repr

inductive Switch where
  | noFormat
  | emit
  | watch
  | verbose
  | help
  | version
deriving DecidableEq, Repr

def Setting.name : Setting → String
  | .workspace => "workspace"
  | .stylesDir => "styles-dir"
  | .excludeDirs => "exclude-dirs"
  | .config => "config"

def Setting.shown : Setting → String
  | .workspace => "--workspace <WORKSPACE>"
  | .stylesDir => "--styles-dir <STYLES_DIR>"
  | .excludeDirs => "--exclude-dirs <EXCLUDE_DIRS>"
  | .config => "--config <CONFIG>"

def Switch.name : Switch → String
  | .noFormat => "no-format"
  | .emit => "emit"
  | .watch => "watch"
  | .verbose => "verbose"
  | .help => "help"
  | .version => "version"

/-- How messages name an option without a value. -/
def Switch.shown (s : Switch) : String := "--" ++ s.name

def Setting.ofName? (name : String) : Option Setting :=
  [.workspace, .stylesDir, .excludeDirs, .config].find? fun (s : Setting) ↦ s.name == name

def Switch.ofName? (name : String) : Option Switch :=
  [.noFormat, .emit, .watch, .verbose, .help, .version].find? fun (s : Switch) ↦ s.name == name

def Switch.ofLetter? : Char → Option Switch
  | 'v' => some .verbose
  | 'h' => some .help
  | 'V' => some .version
  | _ => none

inductive Refusal where
  | unexpectedArgument (word : String)
  | valueMissing (setting : Setting)
  | repeated (shown : String)
  | unexpectedValue (value shown : String)
  | help
  | version
deriving DecidableEq, Repr

def helpText : String :=
  "Generate TypeScript typings for CSS/SCSS/SASS modules\n" ++
  "\n" ++
  "Usage: css-typings [OPTIONS]\n" ++
  "\n" ++
  "Options:\n" ++
  "      --workspace <WORKSPACE>        Workspace root (config file and node_modules lookup)" ++
    " [default: .]\n" ++
  "      --styles-dir <STYLES_DIR>      Directory to scan for module stylesheets (defaults to" ++
    " the workspace)\n" ++
  "      --exclude-dirs <EXCLUDE_DIRS>  Regular expression for directories to skip\n" ++
  "      --config <CONFIG>              Path to css-typings.json\n" ++
  "      --no-format                    Do not run prettier over generated typings\n" ++
  "      --emit                         Print typings to stdout instead of writing files\n" ++
  "      --watch                        Watch mode\n" ++
  "  -v, --verbose                      Enable debug logging\n" ++
  "  -h, --help                         Print help\n" ++
  "  -V, --version                      Print version\n"

def versionText : String := "css-typings 0.1.0\n"

def firstLineOf : List Char → List Char
  | [] => []
  | '\n' :: _ => []
  | '\r' :: '\n' :: _ => []
  | c :: rest => c :: firstLineOf rest

def Refusal.message : Refusal → String
  | .help => helpText
  | .version => versionText
  | .unexpectedArgument word => line ("error: unexpected argument '" ++ word ++ "' found")
  | .valueMissing setting =>
    line ("error: a value is required for '" ++ setting.shown ++ "' but none was supplied")
  | .repeated shown => line ("error: the argument '" ++ shown ++ "' cannot be used multiple times")
  | .unexpectedValue value shown =>
    line ("error: unexpected value '" ++ value ++ "' for '" ++ shown ++
      "' found; no more were expected")
where
  line (text : String) : String := String.ofList (firstLineOf text.toList)

structure Progress where
  arguments : Arguments := {}
  settings : List Setting := []
  switches : List Switch := []
  pending : Option (Setting × Option String) := none
deriving DecidableEq, Repr

namespace Progress

def assign (p : Progress) (setting : Setting) (value : String) : Except Refusal Progress :=
  if p.settings.contains setting then .error (.repeated setting.shown)
  else
    let a := p.arguments
    let arguments := match setting with
      | .workspace => { a with workspace := value }
      | .stylesDir => { a with stylesDir := some value }
      | .excludeDirs => { a with excludeDirs := some value }
      | .config => { a with config := some value }
    .ok { p with arguments, settings := setting :: p.settings }

def settle (p : Progress) : Except Refusal Progress :=
  match p.pending with
  | none => .ok p
  | some (setting, none) => .error (.valueMissing setting)
  | some (setting, some value) => { p with pending := none }.assign setting value

def turnOn (p : Progress) (switch : Switch) : Except Refusal Progress := do
  let p ← p.settle
  let a := p.arguments
  let on (arguments : Arguments) : Except Refusal Progress :=
    if p.switches.contains switch then .error (.repeated switch.shown)
    else .ok { p with arguments, switches := switch :: p.switches }
  match switch with
  | .noFormat => on { a with noFormat := true }
  | .emit => on { a with emit := true }
  | .watch => on { a with watch := true }
  | .verbose => on { a with verbose := true }
  | .help => throw .help
  | .version => throw .version

def letters (p : Progress) : List Char → Except Refusal Progress
  | [] => .ok p
  | c :: rest => do
    match Switch.ofLetter? c with
    | none => throw (.unexpectedArgument (String.ofList ['-', c]))
    | some switch => (← p.turnOn switch).letters rest

/-- Reads an argument with two dashes: its name, and a value if an equals sign stands in it. -/
def long (p : Progress) (name : String) (value : Option String) : Except Refusal Progress :=
  match Setting.ofName? name, Switch.ofName? name, value with
  | some setting, _, some value => do (← p.settle).assign setting value
  | some setting, _, none => do
    let p ← p.settle
    return { p with pending := some (setting, none) }
  | none, some switch, some value => throw (.unexpectedValue value switch.shown)
  | none, some switch, none => p.turnOn switch
  | none, none, _ => throw (.unexpectedArgument ("--" ++ name))

def value (p : Progress) (word : String) : Except Refusal Progress :=
  match p.pending with
  | some (setting, none) => .ok { p with pending := some (setting, some word) }
  | _ => throw (.unexpectedArgument word)

def step (p : Progress) (word : String) : Except Refusal Progress :=
  match word.toList with
  | '-' :: '-' :: text =>
    match text.span (· != '=') with
    | (name, _ :: value) => p.long (String.ofList name) (some (String.ofList value))
    | (name, []) => p.long (String.ofList name) none
  | '-' :: c :: text => p.letters (c :: text)
  | _ => p.value word

/-- Reads all arguments; behind `--` nothing may stand. -/
def readAll (p : Progress) : List String → Except Refusal Arguments
  | [] => do return (← p.settle).arguments
  | "--" :: word :: _ => throw (.unexpectedArgument word)
  | "--" :: [] => do return (← p.settle).arguments
  | word :: rest => do (← p.step word).readAll rest

end Progress

def read (words : List String) : Except Refusal Arguments := Progress.readAll {} words

/-- Arguments on top of a configuration file, whose paths are relative to the workspace. Paths of
the arguments are relative to the working directory. -/
def merge (a : Arguments) (file : Config) (cwd workspace : String) : Config where
  stylesDir := match a.stylesDir with
    | some dir => some (Path.resolve cwd dir)
    | none => file.stylesDir.map (Path.resolve workspace)
  excludeDirs := a.excludeDirs.or file.excludeDirs
  format := file.format && !a.noFormat

end Arguments
end StyleTypings
