import StyleTypings.Css.Calculation.Reader

namespace StyleTypings.Css.Quantity

open Reader

/-- The number that a calculation gives; the names of `channels` stand for numbers. -/
def computedNumber (channels : List String) : Reader Float32 := do
  match (← Calculation.reader .number channels).number? with
  | some v => return v
  | none => fail .invalidValue

def computedAmount (kind : Computed) : Reader Float32 := do
  match (← Calculation.reader kind []).amount? with
  | some (_, v) => return v
  | none => fail .invalidValue

def number : Reader Float32 :=
  orElse (computedNumber []) do
    return (← expect fun | .number num => some num.float | _ => none).2

def percentage : Reader Float32 :=
  orElse (computedAmount .percentage) do
    return (← expect fun | .percentage num => some num.float | _ => none).2

def dimension (measure : Measure) : Reader Float32 := do
  let found ← expect fun
    | .dimension num unit =>
      match Measure.ofUnit? unit.toLower with
      | some (m, size) => if m == measure then some (num.float * size) else none
      | none => none
    | _ => none
  return found.2

def angle : Reader Float32 :=
  orElse (computedAmount .angle) (dimension .angle)

def angleOrZero : Reader Unit :=
  orElse (do let _ ← angle) do
    let _ ← expect fun | .number num => if num.float == 0 then some () else none | _ => none

def time : Reader Float32 :=
  orElse (computedAmount .time) (dimension .time)

/-- A length; one without a unit is in pixels. -/
def writtenLength : Reader Unit := do
  let _ ← expect fun
    | .number _ => some ()
    | .dimension _ unit => if lengthUnits.contains unit.toLower then some () else none
    | _ => none

def length : Reader Unit :=
  orElse (do let _ ← Calculation.reader .length []) writtenLength

def lengthPercentage : Reader Unit :=
  orElse (do let _ ← Calculation.reader .lengthPercentage []) <|
  orElse writtenLength (do let _ ← percentage)

def anglePercentage : Reader Unit :=
  orElse (do let _ ← Calculation.reader .anglePercentage []) <|
  orElse (do let _ ← angle) (do let _ ← percentage)

def numberOrPercentage : Reader (Bool × Float32) :=
  orElse (return (false, ← number)) (return (true, ← percentage))

def resolutionUnits : List String := ["dpi", "dpcm", "dppx", "x"]

def resolution : Reader Unit := do
  let start ← here
  let c ← next
  match c.token with
  | .dimension _ unit =>
    if !resolutionUnits.contains unit.toLower then failAt start (.unexpectedToken (.ident unit))
  | t => failAt start (.unexpectedToken t)

end StyleTypings.Css.Quantity
