import StyleTypings.Log.Event
import StyleTypings.Text.Blank
import StyleTypings.Unicode.Category

namespace StyleTypings.Log

/-- Lets the events of areas that begin with `area` through if their rank is not above `most`. -/
structure Directive where
  area : String
  most : Nat
deriving DecidableEq, Repr, Inhabited

abbrev Filter := List Directive

def rank? (word : String) : Option Nat :=
  match word.toNat? with
  | some n => if n ≤ 5 then some n else none
  | none =>
    match word.toLower with
    | "off" => some 0
    | "error" => some 1
    | "warn" => some 2
    | "info" => some 3
    | "debug" => some 4
    | "trace" => some 5
    | _ => none

def everything : Nat := 5

def begins (c : Char) : Bool :=
  c == '-' || c == ':' || c == '_' || Unicode.isAlphabetic c || Unicode.isNumeric c

/-- Reads a directive: a level, an area, or both with an equals sign. The place of the sign is that
in the text without the blanks around it, and it divides the text with them. -/
def Directive.read? (text : String) : Option Directive :=
  let bare := (Text.trim text).toList
  if !bare.head?.any begins then none
  else
    let place := (bare.takeWhile (· != '=')).length
    if place == bare.length then
      match rank? text with
      | some n => some ⟨"", n⟩
      | none => some ⟨text, everything⟩
    else
      let area := (text.take place).toString
      let level := (text.drop (place + 1)).toString
      if level.isEmpty then some ⟨area, everything⟩
      else (rank? level).map fun n ↦ ⟨area, n⟩

namespace Filter

def read? (text : String) : Option Filter :=
  if text.isEmpty then some []
  else (text.splitOn ",").mapM Directive.read?

def standard (verbose : Bool) : Filter := [⟨"", if verbose then 4 else 2⟩]

def deciding? (f : Filter) (area : String) : Option Directive :=
  f.foldl (fun (best : Option Directive) d ↦
    if d.area.toList.isPrefixOf area.toList && best.all (·.area.length ≤ d.area.length) then some d
    else best) none

def shows (f : Filter) (e : Event) : Bool :=
  match f.deciding? e.area with
  | some d => e.level.rank ≤ d.most
  | none => false

end Filter
end StyleTypings.Log
