import StyleTypings.Css.Quantity

namespace StyleTypings.Css.Color

open Reader

def named : List String := [
  "aliceblue", "antiquewhite", "aqua", "aquamarine", "azure", "beige", "bisque", "black",
  "blanchedalmond", "blue", "blueviolet", "brown", "burlywood", "cadetblue", "chartreuse",
  "chocolate", "coral", "cornflowerblue", "cornsilk", "crimson", "cyan", "darkblue", "darkcyan",
  "darkgoldenrod", "darkgray", "darkgreen", "darkgrey", "darkkhaki", "darkmagenta",
  "darkolivegreen", "darkorange", "darkorchid", "darkred", "darksalmon", "darkseagreen",
  "darkslateblue", "darkslategray", "darkslategrey", "darkturquoise", "darkviolet", "deeppink",
  "deepskyblue", "dimgray", "dimgrey", "dodgerblue", "firebrick", "floralwhite", "forestgreen",
  "fuchsia", "gainsboro", "ghostwhite", "gold", "goldenrod", "gray", "green", "greenyellow", "grey",
  "honeydew", "hotpink", "indianred", "indigo", "ivory", "khaki", "lavender", "lavenderblush",
  "lawngreen", "lemonchiffon", "lightblue", "lightcoral", "lightcyan", "lightgoldenrodyellow",
  "lightgray", "lightgreen", "lightgrey", "lightpink", "lightsalmon", "lightseagreen",
  "lightskyblue", "lightslategray", "lightslategrey", "lightsteelblue", "lightyellow", "lime",
  "limegreen", "linen", "magenta", "maroon", "mediumaquamarine", "mediumblue", "mediumorchid",
  "mediumpurple", "mediumseagreen", "mediumslateblue", "mediumspringgreen", "mediumturquoise",
  "mediumvioletred", "midnightblue", "mintcream", "mistyrose", "moccasin", "navajowhite", "navy",
  "oldlace", "olive", "olivedrab", "orange", "orangered", "orchid", "palegoldenrod", "palegreen",
  "paleturquoise", "palevioletred", "papayawhip", "peachpuff", "peru", "pink", "plum", "powderblue",
  "purple", "rebeccapurple", "red", "rosybrown", "royalblue", "saddlebrown", "salmon", "sandybrown",
  "seagreen", "seashell", "sienna", "silver", "skyblue", "slateblue", "slategray", "slategrey",
  "snow", "springgreen", "steelblue", "tan", "teal", "thistle", "tomato", "turquoise", "violet",
  "wheat", "white", "whitesmoke", "yellow", "yellowgreen", "transparent"]

def system : List String := [
  "accentcolor", "accentcolortext", "activetext", "buttonborder", "buttonface", "buttontext",
  "canvas", "canvastext", "field", "fieldtext", "graytext", "highlight", "highlighttext",
  "linktext", "mark", "marktext", "selecteditem", "selecteditemtext", "visitedtext", "activeborder",
  "activecaption", "appworkspace", "background", "buttonhighlight", "buttonshadow", "captiontext",
  "inactiveborder", "inactivecaption", "inactivecaptiontext", "infobackground", "infotext", "menu",
  "menutext", "scrollbar", "threeddarkshadow", "threedface", "threedhighlight", "threedlightshadow",
  "threedshadow", "window", "windowframe", "windowtext"]

def isHex (text : String) : Bool :=
  [3, 4, 6, 8].contains text.length && text.toList.all isHexDigit

def missing : Reader Float32 := do
  keyword "none"
  return 0 / 0

/-- A channel of the colour that another one is made from; its value is not known here, and one
takes its place. -/
def channel (channels : List String) : Reader Float32 := do
  let name ← ident
  if !channels.contains name.toLower then fail .invalidValue
  return 1

def relativePart (channels : List String) : Reader Float32 :=
  orElse (channel channels) (Quantity.computedNumber channels)

def numberPart (channels : List String) : Reader Float32 :=
  orElse (relativePart channels) <| orElse Quantity.number missing

def percentagePart : Reader Float32 :=
  orElse Quantity.percentage missing

def part (channels : List String) : Reader (Bool × Float32) :=
  orElse (return (false, ← relativePart channels)) <|
  orElse Quantity.numberOrPercentage (return (false, ← missing))

def hue (channels : List String) : Reader Float32 :=
  orElse (relativePart channels) <| orElse Quantity.angle <| orElse Quantity.number missing

def alpha (channels : List String) : Reader Unit := do
  if ← accepts (token (.delim '/')) then
    let _ ← part channels

def alphaBehindComma : Reader Unit := do
  if !(← isExhausted) then
    let _ ← token .comma
    let _ ← part []

/-- The channels of a colour, and those of them that are no angles; the opacity is one of these. -/
structure Channels where
  angles : List String
  numbers : List String

def Channels.none : Channels := ⟨[], []⟩

def Channels.all (c : Channels) : List String := c.angles ++ c.numbers

def Channels.areNamed (c : Channels) : Bool := !c.numbers.isEmpty

/-- Whether commas separate the channels, the first of which was read; channels that are left out or
taken from another colour have none. -/
def commas (channels : Channels) (first : Float32) : Reader Bool := do
  if channels.areNamed || first.isNaN then return false
  accepts (token .comma)

def rgb (channels : Channels) : Reader Unit := do
  let (isPercentage, red) ← part channels.numbers
  if ← commas channels red then
    let further := if isPercentage then percentagePart else numberPart []
    let green ← further
    let _ ← token .comma
    let blue ← further
    if green.isNaN || blue.isNaN then fail .invalidValue
    alphaBehindComma
  else
    let _ ← part channels.numbers
    let _ ← part channels.numbers
    alpha channels.numbers

def hueFirst (old : Bool) (channels : Channels) : Reader Unit := do
  let first ← hue channels.all
  let separated ← if old then commas channels first else pure false
  let (_, second) ← part channels.numbers
  if separated then
    let _ ← token .comma
  let (_, third) ← part channels.numbers
  if separated then
    if second.isNaN || third.isNaN then fail .invalidValue
    alphaBehindComma
  else alpha channels.numbers

def threeParts (channels : Channels) : Reader Unit := do
  let _ ← part channels.numbers
  let _ ← part channels.numbers
  let _ ← part channels.numbers
  alpha channels.numbers

def hueLast (channels : Channels) : Reader Unit := do
  let _ ← part channels.numbers
  let _ ← part channels.numbers
  let _ ← hue channels.all
  alpha channels.numbers

def spaceChannels? (space : String) : Option (List String) :=
  if ["srgb", "srgb-linear", "display-p3", "a98-rgb", "prophoto-rgb", "rec2020"].contains space then
    some ["r", "g", "b", "alpha"]
  else if ["xyz", "xyz-d50", "xyz-d65"].contains space then some ["x", "y", "z", "alpha"]
  else none

def cylindricalSpaces : List String := ["hsl", "hwb", "lch", "oklch"]
def rectangularSpaces : List String := [
  "srgb", "srgb-linear", "lab", "oklab", "xyz", "xyz-d50", "xyz-d65"]

def share : Reader Float32 :=
  return (← expect fun | .percentage num => some num.float | _ => none).2

section

variable (inner : Reader Bool)

def known : Reader Unit := do
  if !(← inner) then fail .invalidValue

def made (channels : Channels) (parts : Channels → Reader Unit) : Reader Bool := do
  if ← accepts (keyword "from") then
    known inner
    parts channels
  else parts Channels.none
  return true

def inSpace : Reader Bool := do
  let relative ← accepts (keyword "from")
  if relative then known inner
  match spaceChannels? (← ident).toLower with
  | some names => threeParts (if relative then ⟨[], names⟩ else Channels.none)
  | none => fail .invalidValue
  return true

def ingredient : Reader (Option Float32) := do
  let before ← optional share
  known inner
  match before with
  | some v => return some v
  | none => optional share

def mixture : Reader Bool := do
  keyword "in"
  let space ← oneOf (cylindricalSpaces ++ rectangularSpaces)
  if cylindricalSpaces.contains space then
    if ← accepts (oneOf ["shorter", "longer", "increasing", "decreasing", "specified"]) then
      keyword "hue"
  let _ ← token .comma
  let first ← ingredient inner
  let _ ← token .comma
  let second ← ingredient inner
  let total : Float32 := match first, second with
    | some v, some w => v + w
    | _, _ => 1
  if total == 0 then fail .invalidValue
  return true

/-- The inside of a function that makes a colour; gives whether the colour is known. -/
def ofFunction (name : String) : Reader Bool := do
  match name.toLower with
  | "rgb" | "rgba" => made inner ⟨[], ["r", "g", "b", "alpha"]⟩ rgb
  | "hsl" | "hsla" => made inner ⟨["h"], ["s", "l", "alpha"]⟩ (hueFirst true)
  | "hwb" => made inner ⟨["h"], ["w", "b", "alpha"]⟩ (hueFirst false)
  | "lab" | "oklab" => made inner ⟨[], ["l", "a", "b", "alpha"]⟩ threeParts
  | "lch" | "oklch" => made inner ⟨["h"], ["l", "c", "alpha"]⟩ hueLast
  | "color" => inSpace inner
  | "color-mix" => mixture inner
  | "light-dark" => do
    let light ← inner
    let _ ← token .comma
    let dark ← inner
    return light && dark
  | _ => fail .invalidValue

end

/-- A colour whose functions nest no deeper than `depth`; gives whether it is known. -/
def within : (depth : Nat) → Reader Bool
  | 0 => fail .nestingTooDeep
  | depth + 1 => do
    let c ← next
    match c.token with
    | .hash text | .idHash text => if isHex text then return true else fail .invalidValue
    | .ident name =>
      let lower := name.toLower
      if named.contains lower then return true
      if lower == "currentcolor" || system.contains lower then return false
      fail .invalidValue
    | .function name => inside c (ofFunction (within depth) name)
    | _ => fail .invalidValue

def reader : Reader Unit := do
  let _ ← within (Component.heights (← get).items + 1)

end StyleTypings.Css.Color
