import StyleTypings.Config
import StyleTypings.Exclusion
import StyleTypings.Toolchain

namespace StyleTypings

open Text (Bytes)

structure Summary where
  generated : List String := []
  excluded : List String := []
deriving DecidableEq, Repr, Inhabited

namespace Walk

/-- What a walk has yet to do: to visit an entry, or to list a directory that it has visited. -/
inductive Task where
  | visit (path : Bytes) (kind : Disk.Kind)
  | enter (path : Bytes)
deriving DecidableEq, Repr, Inhabited

structure Progress where
  tasks : List Task
  summary : Summary := {}
deriving DecidableEq, Repr, Inhabited

def failure (path : Bytes) (fault : Disk.Fault) : Failure :=
  match fault with
  | .noEntry => .missingFile (Text.lossy path)
  | _ => .walk (Text.lossy path) fault

def readFailure (path : String) (fault : Disk.Fault) : Failure :=
  match fault with
  | .noEntry => .missingFile path
  | _ => .read path fault

def visits (path : Bytes) (entries : List (Disk.Name × Disk.Kind)) : List Task :=
  (entries.mergeSort fun a b ↦ decide (a.1 ≤ b.1)).map fun (name, kind) ↦
    .visit (Disk.join path name) kind

/-- The tasks of a walk from a root. A link at the root is followed, but it is visited as a link. -/
def start (d : Disk) (root : Bytes) : Except Failure (List Task) :=
  match d.node root false with
  | .error fault => .error (failure root fault)
  | .ok (.link _) =>
    match d.node root true with
    | .error fault => .error (failure root fault)
    | .ok (.dir _) => .ok [.visit root .link, .enter root]
    | .ok _ => .ok [.visit root .link]
  | .ok n => .ok [.visit root n.kind]

variable (t : Toolchain) (exclusion : Exclusion)

def visitFile (path : Bytes) : App (Except Failure (Option String)) := do
  match Text.decode? path with
  | none => do
    World.say (.pathNotText (Text.lossy path))
    return .ok none
  | some text =>
    if Module.isModule text then
      World.pause
      match (← get).disk.readText path with
      | .error fault => return .error (readFailure text fault)
      | .ok content =>
        match ← Generator.generate t.capabilities content text with
        | .error f => return .error f
        | .ok (.submitted target _) => return .ok (some target)
        | .ok .skipped => return .ok none
    else return .ok none

/-- The walk goes into a directory in front of what comes behind it, in the order of the bytes of
the names. An excluded directory is told of and passed over, and the first failure ends the walk. -/
def step (p : Progress) : App (Except Failure Progress) :=
  match p.tasks with
  | [] => return .ok p
  | .enter path :: later => do
    World.pause
    match (← get).disk.list path with
    | .error fault => return .error (failure path fault)
    | .ok entries => return .ok { p with tasks := visits path entries ++ later }
  | .visit path .dir :: later =>
    let dir := Text.lossy path
    if exclusion.excludes dir then do
      World.say (.directoryExcluded dir)
      let summary := { p.summary with excluded := p.summary.excluded ++ [dir] }
      return .ok ⟨later, summary⟩
    else return .ok { p with tasks := .enter path :: later }
  | .visit path _ :: later => do
    match ← visitFile t path with
    | .error f => return .error f
    | .ok target =>
      let summary := { p.summary with generated := p.summary.generated ++ target.toList }
      return .ok ⟨later, summary⟩

def run : (fuel : Nat) → Progress → App (Except Failure Summary)
  | 0, p => return .ok p.summary
  | fuel + 1, p =>
    match p.tasks with
    | [] => return .ok p.summary
    | _ :: _ => do
      match ← step t exclusion p with
      | .error f => return .error f
      | .ok p => run fuel p

/-- A bound on the tasks of a walk: each node of the tree takes two at most, and so does each file
that the walk adds to it. -/
def taskBound (d : Disk) : Nat := 4 * d.top.size + 4

def fromDirectory (root : String) : App (Except Failure Summary) := do
  let d := (← get).disk
  match start d (Text.encode root) with
  | .error f => return .error f
  | .ok tasks => run t exclusion (taskBound d) ⟨tasks, {}⟩

end Walk

def setUp (config : Config) (t : Toolchain) : App (Except Failure Unit) := do
  match Exclusion.ofPattern config.excludeDirs with
  | .error f => return .error f
  | .ok exclusion =>
    match config.stylesDir with
    | none => return .ok ()
    | some dir =>
      match ← Walk.fromDirectory t exclusion dir with
      | .error f => return .error f
      | .ok summary => do
        World.say (.directoryDone dir summary.generated.length)
        return .ok ()

end StyleTypings
