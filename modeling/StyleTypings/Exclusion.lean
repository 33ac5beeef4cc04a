import StyleTypings.Failure
import StyleTypings.Pattern

namespace StyleTypings

abbrev Exclusion := Option (String → Bool)

namespace Exclusion

/-- A directory is excluded if the pattern is found anywhere in its path. -/
def excludes (e : Exclusion) (dir : String) : Bool :=
  match e with
  | some found => found dir
  | none => false

def ofPattern (source : Option String) : Except Failure Exclusion :=
  match source with
  | none => .ok none
  | some text =>
    match Pattern.compile text with
    | .ok pattern => .ok (some pattern.isIn)
    | .error complaint => .error (.invalidPattern text complaint)

/-- Whether a path lies in an excluded directory at or below a root. Directories are tried from the
path upwards as far as the root. -/
def coversAncestor (e : Exclusion) (path root : String) : Bool :=
  match e with
  | some found => ((Path.ancestors path).takeWhile (Path.startsWith · root)).any found
  | none => false

end Exclusion
end StyleTypings
