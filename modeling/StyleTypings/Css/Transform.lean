import StyleTypings.Css.Quantity

namespace StyleTypings.Css.Transform

open Reader

def arguments : List (Reader Unit) → Reader Unit
  | [] => return
  | [r] => r
  | r :: rest => do
    r
    let _ ← token .comma
    arguments rest

/-- An argument, and perhaps a second one of the same kind. -/
def oneOrTwo (r : Reader Unit) : Reader Unit := do
  r
  if ← accepts (token .comma) then r

def ofFunction (name : String) : Reader Unit :=
  let number : Reader Unit := do
    let _ ← Quantity.number
  let factor : Reader Unit := do
    let _ ← Quantity.numberOrPercentage
  let offset := Quantity.lengthPercentage
  let angle := Quantity.angleOrZero
  match name.toLower with
  | "matrix" => arguments (List.replicate 6 number)
  | "matrix3d" => arguments (List.replicate 16 number)
  | "translate" => oneOrTwo offset
  | "translatex" | "translatey" => offset
  | "translatez" | "perspective" => Quantity.length
  | "translate3d" => arguments [offset, offset, Quantity.length]
  | "scale" => oneOrTwo factor
  | "scalex" | "scaley" | "scalez" => factor
  | "scale3d" => arguments [factor, factor, factor]
  | "rotate" | "rotatex" | "rotatey" | "rotatez" | "skewx" | "skewy" => angle
  | "rotate3d" => arguments [number, number, number, angle]
  | "skew" => oneOrTwo angle
  | _ => fail .invalidValue

def reader : Reader Unit := do
  let (c, name) ← expect fun | .function name => some name | _ => none
  inside c (ofFunction name)

def list : Reader Unit := do
  if ← accepts (keyword "none") then return
  reader
  let _ ← repeated (optional reader)

end StyleTypings.Css.Transform
