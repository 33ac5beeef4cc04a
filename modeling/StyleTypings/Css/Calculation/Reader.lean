import StyleTypings.Css.Calculation
import StyleTypings.Css.Value

namespace StyleTypings.Css

open Reader

/-- The kinds of calculations, by what they may hold besides numbers. -/
inductive Computed where
  | number
  | length
  | percentage
  | lengthPercentage
  | angle
  | anglePercentage
  | time
deriving DecidableEq, Repr, Inhabited

namespace Computed

def admits : Computed → Measure → Bool
  | length, .length _ | lengthPercentage, .length _ => true
  | percentage, .percentage | lengthPercentage, .percentage | anglePercentage, .percentage => true
  | angle, .angle | anglePercentage, .angle => true
  | time, .time => true
  | _, _ => false

/-- Whether a result is a value of its kind. Lengths may remain unknown, and so may what holds
percentages of something else; all others are known. -/
def accepts (kind : Computed) (c : Calculation) : Bool :=
  match kind with
  | number => c.number?.isSome
  | length | lengthPercentage | anglePercentage => true
  | percentage | angle | time => c.amount?.isSome

end Computed

namespace Calculation

def constant? (name : String) : Option Float32 :=
  match name.toLower with
  | "e" => some 2.718281828459045
  | "pi" => some circleRatio
  | "infinity" => some (1 / 0)
  | "-infinity" => some (-1 / 0)
  | "nan" => some (0 / 0)
  | _ => none

def rounding? (name : String) : Option (Float32 → Float32) :=
  match name with
  | "nearest" => some Float32.round
  | "up" => some Float32.ceil
  | "down" => some Float32.floor
  | "to-zero" => some fun v ↦ if v < 0 then v.ceil else v.floor
  | _ => none

def remainder (v w : Float32) : Float32 :=
  let ratio := v.toFloat / w.toFloat
  let whole := if ratio < 0 then ratio.ceil else ratio.floor
  (v.toFloat - whole * w.toFloat).toFloat32

def modulo (v w : Float32) : Float32 := remainder (remainder v w + w) w

def ofArc (v : Float32) : Calculation := amount .angle (v * 180 / circleRatio)

/-- The result of a function that gives an angle; what is no number is no angle. -/
def angleResult (kind : Computed) (arc : Float32) : Reader Calculation := do
  if arc.isNaN then return number arc
  if !kind.admits .angle then fail .invalidValue
  return ofArc arc

def orFail (c : Option Calculation) : Reader Calculation :=
  match c with
  | some c => return c
  | none => fail .invalidValue

section

variable (operand : Reader Calculation)

def factor? : Reader (Option (Bool × Calculation)) := do
  let start ← get
  match (← next?).map Component.token with
  | some (.delim '*') => return some (false, ← operand)
  | some (.delim '/') => return some (true, ← operand)
  | _ =>
    set start
    return none

def product : Reader Calculation := do
  let first ← operand
  let factors ← repeated (factor? operand)
  orFail <| factors.foldlM (fun c (divides, d) ↦ if divides then c.over? d else c.times? d) first

def summand? : Reader (Option Calculation) := do
  let start ← get
  match (← nextWithSpace?).map Component.token with
  | some (.whiteSpace _) =>
    if ← isExhausted then return none
    match (← next).token with
    | .delim '+' => return some (← product operand)
    | .delim '-' => return some ((← product operand).scale (-1))
    | _ =>
      set start
      return none
  | _ =>
    set start
    return none

def sum : Reader Calculation := do
  let first ← product operand
  return (← repeated (summand? operand)).foldl add first

end

section

variable (inner : Computed → Reader Calculation)

def pair (kind : Computed) : Reader (Calculation × Calculation) := do
  let a ← inner kind
  let _ ← token .comma
  return (a, ← inner kind)

def plainNumber : Reader Float32 := do
  match (← inner .number).number? with
  | some v => return v
  | none => fail .invalidValue

def arc : Reader Float32 := do
  let c ← inner .angle
  match c.number?, c.amount? with
  | some v, _ => return v
  | none, some (_, v) => return v * circleRatio / 180
  | none, none => fail .invalidValue

def tangent : Reader Float32 := do
  match (← inner .angle).number? with
  | some v => return v
  | none => fail .invalidValue

def coordinates (kind : Computed) : Reader Float32 := do
  let (a, b) ← pair inner kind
  let arc := do (← a.term?).combine? Float32.atan2 (← b.term?)
  match arc with
  | some (.number v) | some (.amount _ v) => return v
  | _ => fail .invalidValue

def ofFunction (kind : Computed) (name : String) : Reader Calculation := do
  match name.toLower with
  | "calc" => inner kind
  | "min" => return extreme .lt (← commaSeparated (inner kind))
  | "max" => return extreme .gt (← commaSeparated (inner kind))
  | "clamp" => do
    let (low, c) ← pair inner kind
    let _ ← token .comma
    return clamp low c (← inner kind)
  | "round" => do
    let strategy ← optional do
      match rounding? (← ident).toLower with
      | some f => return f
      | none => fail .invalidValue
    if strategy.isSome then
      let _ ← token .comma
    let whole := strategy.getD Float32.round
    let (a, b) ← pair inner kind
    return lift₂ (Term.combine? fun v w ↦ whole (v / w) * w) a b
  | "rem" => do
    let (a, b) ← pair inner kind
    return lift₂ (Term.combine? remainder) a b
  | "mod" => do
    let (a, b) ← pair inner kind
    return lift₂ (Term.combine? modulo) a b
  | "sin" => return number (← arc inner).sin
  | "cos" => return number (← arc inner).cos
  | "tan" => return number (← arc inner).tan
  | "asin" => angleResult kind (← tangent inner).asin
  | "acos" => angleResult kind (← tangent inner).acos
  | "atan" => angleResult kind (← tangent inner).atan
  | "atan2" => do
    let measured := orElse (coordinates inner .length) <| orElse (coordinates inner .percentage) <|
      orElse (coordinates inner .angle) <| orElse (coordinates inner .time) <|
      coordinates inner .number
    let v ← measured
    if !kind.admits .angle then fail .invalidValue
    return ofArc v
  | "pow" => do
    let v ← plainNumber inner
    let _ ← token .comma
    return number (v.pow (← plainNumber inner))
  | "log" => do
    let v ← plainNumber inner
    if ← Reader.accepts (token .comma) then return number (v.log / (← plainNumber inner).log)
    return number v.log
  | "sqrt" => return number (← plainNumber inner).sqrt
  | "exp" => return number (← plainNumber inner).exp
  | "hypot" => return hypot (← commaSeparated (inner kind))
  | "abs" => return (← inner kind).lift (Term.map? Float32.abs)
  | "sign" => return (← inner kind).sign
  | _ => fail .invalidValue

end

def written? (kind : Computed) : Token → Option Calculation
  | .number num => some (number num.float)
  | .percentage num => if kind.admits .percentage then some (amount .percentage num.float) else none
  | .dimension num unit => do
    let (measure, size) ← Measure.ofUnit? unit.toLower
    if kind.admits measure then some (amount measure (num.float * size)) else none
  | _ => none

/-- An operand. The names of `channels` stand for numbers that are not known here; one takes the
place of each. -/
def operand (channels : List String) : (depth : Nat) → Computed → Reader Calculation
  | 0, _ => fail .nestingTooDeep
  | depth + 1, kind => do
    let inner (k : Computed) : Reader Calculation := sum (operand channels depth k)
    let c ← next
    match c.token with
    | .function name => inside c (ofFunction inner kind name)
    | .openParen => inside c (inner kind)
    | .ident name =>
      match constant? name with
      | some v => return number v
      | none => if channels.contains name.toLower then return number 1 else fail .invalidValue
    | t => orFail (written? kind t)

def reader (kind : Computed) (channels : List String) : Reader Calculation := do
  let depth := Component.heights (← get).items
  let c ← next
  match c.token with
  | .function name => do
    let inner (k : Computed) : Reader Calculation := sum (operand channels depth k)
    let result ← inside c (ofFunction inner kind name)
    if !kind.accepts result then fail .invalidValue
    return result
  | _ => fail .invalidValue

end Calculation
end StyleTypings.Css
