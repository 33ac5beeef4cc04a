import StyleTypings.Css.Color

namespace StyleTypings.Css.Image

open Reader

def horizontalSide : Reader Unit := do
  let _ ← oneOf ["left", "right"]

def verticalSide : Reader Unit := do
  let _ ← oneOf ["top", "bottom"]

def coordinate (side : Reader Unit) : Reader Unit :=
  orElse (keyword "center") <| orElse Quantity.lengthPercentage do
    side
    let _ ← accepts Quantity.lengthPercentage

def behindOffset : Reader Unit := do
  if ← accepts verticalSide then return
  if ← accepts Quantity.lengthPercentage then return
  let _ ← accepts (keyword "center")

def behindSide : Reader Unit := do
  if ← accepts (keyword "center") then return
  if ← accepts verticalSide then
    let _ ← accepts Quantity.lengthPercentage

def behindVerticalSide : Reader Unit := do
  let _ ← accepts Quantity.lengthPercentage
  if ← accepts horizontalSide then
    let _ ← accepts Quantity.lengthPercentage
  else keyword "center"

/-- A position; the horizontal coordinate comes first, unless keywords tell otherwise. -/
def position : Reader Unit := do
  if ← accepts (keyword "center") then
    if ← accepts (coordinate verticalSide) then return
    let _ ← accepts (coordinate horizontalSide)
  else if ← accepts Quantity.lengthPercentage then behindOffset
  else if ← accepts horizontalSide then
    let _ ← accepts Quantity.lengthPercentage
    behindSide
  else
    verticalSide
    let _ ← accepts behindVerticalSide

def colorStop (place : Reader Unit) : Reader Unit := do
  Color.reader
  if ← accepts place then
    let _ ← accepts place

/-- The colours of a gradient; a place alone may stand between two of them. -/
def colorStops (place : Reader Unit) : Reader Unit := do
  let rec go : Nat → (behindColor : Bool) → Reader Unit
    | 0, _ => return
    | n + 1, behindColor => do
      let hint ← untilBefore isComma do
        if behindColor then
          if ← accepts place then return true
        colorStop place
        return false
      match ← next? with
      | none => return
      | some _ => go n !hint
  go ((← get).items.length + 1) false

def direction (bare : Bool) : Reader Unit := do
  if ← accepts Quantity.angleOrZero then return
  if !bare then keyword "to"
  if ← accepts horizontalSide then
    let _ ← accepts verticalSide
  else
    verticalSide
    let _ ← accepts horizontalSide

def linearGradient (bare : Bool) : Reader Unit := do
  if ← accepts (direction bare) then
    let _ ← token .comma
  colorStops Quantity.lengthPercentage

def extent : Reader Unit := do
  let _ ← oneOf ["closest-side", "farthest-side", "closest-corner", "farthest-corner"]

/-- An ellipse; its name may be missing. An extent with the name of a circle is none. -/
def ellipse : Reader Unit := do
  let named := accepts (keyword "ellipse")
  if ← accepts extent then
    if ← accepts (keyword "circle") then fail .invalidValue
    let _ ← named
  else if ← accepts Quantity.lengthPercentage then
    Quantity.lengthPercentage
    let _ ← named
  else
    keyword "ellipse"
    if ← accepts extent then return
    if ← accepts Quantity.lengthPercentage then Quantity.lengthPercentage

def circle : Reader Unit := do
  if ← accepts extent then keyword "circle"
  else if ← accepts Quantity.length then
    let _ ← accepts (keyword "circle")
  else
    keyword "circle"
    if ← accepts extent then return
    let _ ← accepts Quantity.length

def placed : Reader Unit := do
  keyword "at"
  position

def radialGradient : Reader Unit := do
  let shaped ← accepts (orElse ellipse circle)
  let placed ← accepts placed
  if shaped || placed then
    let _ ← token .comma
  colorStops Quantity.lengthPercentage

def conicGradient : Reader Unit := do
  let turned ← accepts do
    keyword "from"
    Quantity.angleOrZero
  let placed ← accepts placed
  if turned || placed then
    let _ ← token .comma
  colorStops Quantity.anglePercentage

def oldPoint : Reader Unit := do
  let along (side : Reader Unit) : Reader Unit :=
    orElse (keyword "center") <| orElse (do let _ ← Quantity.numberOrPercentage) side
  along horizontalSide
  along verticalSide

def oldStop : Reader Unit := do
  let (c, name) ← expect fun | .function name => some name.toLower | _ => none
  inside c do
    match name with
    | "color-stop" => do
      let _ ← Quantity.numberOrPercentage
      let _ ← token .comma
    | "from" | "to" => pure ()
    | _ => fail .invalidValue
    Color.reader

def oldGradient : Reader Unit := do
  let comma : Reader Unit := do
    let _ ← token .comma
  let kind ← oneOf ["linear", "radial"]
  let radius : Reader Unit := do
    if kind == "radial" then
      let _ ← Quantity.number
      comma
  comma
  oldPoint
  comma
  radius
  oldPoint
  comma
  radius
  let _ ← commaSeparated oldStop

def gradient (name : String) : Reader Unit :=
  match name.toLower with
  | "linear-gradient" | "repeating-linear-gradient" => linearGradient false
  | "-webkit-linear-gradient" | "-webkit-repeating-linear-gradient" | "-moz-linear-gradient"
  | "-moz-repeating-linear-gradient" | "-o-linear-gradient" | "-o-repeating-linear-gradient" =>
    linearGradient true
  | "radial-gradient" | "repeating-radial-gradient" | "-webkit-radial-gradient"
  | "-webkit-repeating-radial-gradient" | "-moz-radial-gradient" | "-moz-repeating-radial-gradient"
  | "-o-radial-gradient" | "-o-repeating-radial-gradient" => radialGradient
  | "conic-gradient" | "repeating-conic-gradient" => conicGradient
  | "-webkit-gradient" => oldGradient
  | _ => fail .invalidValue

def fileType : Reader Unit := do
  inside (← functionNamed "type") do
    let _ ← string

/-- An image of a set: how fine it is and its type may follow it, in any order. -/
def candidate (image : Reader Unit) : Reader Unit := do
  orElse (do let _ ← urlOrString) image
  if ← accepts Quantity.resolution then
    let _ ← accepts fileType
  else
    let _ ← accepts fileType
    let _ ← accepts Quantity.resolution

def within : (depth : Nat) → Reader Unit
  | 0 => fail .nestingTooDeep
  | depth + 1 =>
    orElse (keyword "none") <| orElse (do let _ ← url) do
      let (c, name) ← expect fun | .function name => some name | _ => none
      inside c do
        if ["image-set", "-webkit-image-set"].contains name.toLower then
          let _ ← commaSeparated (candidate (within depth))
        else gradient name

def reader : Reader Unit := do
  within (Component.heights (← get).items + 1)

end StyleTypings.Css.Image
