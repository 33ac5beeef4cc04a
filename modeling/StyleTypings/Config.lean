import StyleTypings.Json.Reader
import StyleTypings.Path

namespace StyleTypings

structure Config where
  stylesDir : Option String := none
  excludeDirs : Option String := none
  format : Bool := true
deriving DecidableEq, Repr, Inhabited

namespace Config

def fileName : String := "css-typings.json"

inductive Key where
  | stylesDir
  | excludeDirs
  | format
deriving DecidableEq, Repr

def Key.name : Key → String
  | .stylesDir => "stylesDir"
  | .excludeDirs => "excludeDirs"
  | .format => "format"

def Key.all : List Key := [.stylesDir, .excludeDirs, .format]

def Key.ofName? (name : String) : Option Key := Key.all.find? (·.name == name)

open Json Json.Reader

def readValue (config : Config) : Key → Reader Config
  | .stylesDir => return { config with stylesDir := ← optionalText "a UTF-8 path string" }
  | .excludeDirs => return { config with excludeDirs := ← optionalText "a string" }
  | .format => return { config with format := ← bool "a boolean" }

def readList (first : Bool) (config : Config) : List Key → Reader Config
  | [] => return config
  | key :: later => do
    if ← listGoesOn first then readList false (← readValue config key) later
    else return config

/-- Reads the members of an object; `seen` are the keys in front. -/
def readMembers : (fuel : Nat) → (first : Bool) → (seen : List Key) → Config → Reader Config
  | 0, _, _, config => return config
  | fuel + 1, first, seen, config => do
    match ← nextKey first with
    | none => return config
    | some name =>
      match Key.ofName? name with
      | none => do
        colon
        skipValue
        readMembers fuel false seen config
      | some key => do
        if seen.contains key then failRepeated name
        colon
        readMembers fuel false (key :: seen) (← readValue config key)

def read : Reader Config := do
  match ← skipBlank with
  | none => failAhead .endInValue
  | some '[' => do
    advance
    let config ← readList true {} Key.all
    listEnd
    textEnd
    return config
  | some '\x7b' => do
    advance
    let config ← readMembers ((← get).rest.length + 1) true [] {}
    advance
    textEnd
    return config
  | some _ => failKind "struct GeneratorConfig"

def ofJson (text : String) : Except Complaint Config :=
  read.run' (Source.ofString text)

end Config
end StyleTypings
