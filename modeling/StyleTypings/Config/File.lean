import StyleTypings.Config
import StyleTypings.World

namespace StyleTypings.Config

def readFile (d : Disk) (path : String) : Except String Config :=
  match d.readText (Text.encode path) with
  | .error fault => .error fault.message
  | .ok text =>
    match ofJson text with
    | .ok config => .ok config
    | .error complaint => .error complaint.message

/-- Loads a file; what is wrong with it is only reported. -/
def loadFile (path : String) : App Config := do
  match readFile (← get).disk path with
  | .ok config => return config
  | .error error => do
    World.say (.configUnusable path error)
    return {}

def load (workspace : String) : App Config := do
  let path := Path.join workspace fileName
  if (← get).disk.holds (Text.encode path) then loadFile path else return {}

end StyleTypings.Config
