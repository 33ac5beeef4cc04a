import StyleTypings.Css.Token

namespace StyleTypings.Css

/-- What amounts are measured in. Absolute lengths are measured in `px`, angles in degrees and times
in seconds; lengths that depend on something else keep their own unit. -/
inductive Measure where
  | length (unit : String)
  | percentage
  | angle
  | time
deriving DecidableEq, Repr, Inhabited

def lengthUnits : List String := [
  "px", "in", "cm", "mm", "q", "pt", "pc", "em", "rem", "ex", "rex", "ch", "rch", "cap", "rcap",
  "ic", "ric", "lh", "rlh", "vw", "lvw", "svw", "dvw", "cqw", "vh", "lvh", "svh", "dvh", "cqh",
  "vi", "svi", "lvi", "dvi", "cqi", "vb", "svb", "lvb", "dvb", "cqb", "vmin", "svmin", "lvmin",
  "dvmin", "cqmin", "vmax", "svmax", "lvmax", "dvmax", "cqmax"]

def circleRatio : Float32 := 3.14159265358979

/-- What a unit measures, and how much of it one unit is; the unit is in lower case. -/
def Measure.ofUnit? (unit : String) : Option (Measure × Float32) :=
  match unit with
  | "in" => some (.length "px", 96)
  | "cm" => some (.length "px", 96 / 2.54)
  | "mm" => some (.length "px", 96 / 25.4)
  | "q" => some (.length "px", 96 / 101.6)
  | "pt" => some (.length "px", 96 / 72)
  | "pc" => some (.length "px", 16)
  | "deg" => some (.angle, 1)
  | "grad" => some (.angle, 0.9)
  | "rad" => some (.angle, 180 / circleRatio)
  | "turn" => some (.angle, 360)
  | "s" => some (.time, 1)
  | "ms" => some (.time, 0.001)
  | _ => if lengthUnits.contains unit then some (.length unit, 1) else none

/-- A term of a sum; an unresolved one is known only when the stylesheet is used. -/
inductive Term where
  | number (v : Float32)
  | amount (measure : Measure) (v : Float32)
  | unresolved
deriving Repr, Inhabited

namespace Term

def merge? : Term → Term → Option Term
  | number v, number w => some (number (v + w))
  | amount m v, amount n w => if m = n then some (amount m (v + w)) else none
  | _, _ => none

def scale (factor : Float32) : Term → Term
  | number v => number (v * factor)
  | amount m v => amount m (v * factor)
  | unresolved => unresolved

def isAmount : Term → Bool
  | amount _ _ => true
  | _ => false

def isNothing : Term → Bool
  | amount _ v => v == 0
  | _ => false

def combine? (f : Float32 → Float32 → Float32) : Term → Term → Option Term
  | number v, number w => some (number (f v w))
  | amount m v, amount n w => if m = n then some (amount m (f v w)) else none
  | _, _ => none

def map? (f : Float32 → Float32) : Term → Option Term
  | number v => some (number (f v))
  | amount .percentage _ => none
  | amount m v => some (amount m (f v))
  | unresolved => none

def compare? : Term → Term → Option Ordering
  | number v, number w => order? v w
  | amount m v, amount n w => if m = n then order? v w else none
  | _, _ => none
where
  order? (v w : Float32) : Option Ordering :=
    if v < w then some .lt else if w < v then some .gt else if v == w then some .eq else none

end Term

structure Calculation where
  terms : List Term
deriving Repr, Inhabited

namespace Calculation

def number (v : Float32) : Calculation := ⟨[.number v]⟩
def amount (m : Measure) (v : Float32) : Calculation := ⟨[.amount m v]⟩
def unresolved : Calculation := ⟨[.unresolved]⟩

def number? : Calculation → Option Float32
  | ⟨[.number v]⟩ => some v
  | _ => none

def amount? : Calculation → Option (Measure × Float32)
  | ⟨[.amount m v]⟩ => some (m, v)
  | _ => none

def term? : Calculation → Option Term
  | ⟨[t]⟩ => some t
  | _ => none

def mergeInto? (t : Term) : List Term → Option (List Term)
  | [] => none
  | u :: rest =>
    match u.merge? t with
    | some v => some (v :: rest)
    | none => (mergeInto? t rest).map (u :: ·)

def withoutNothing (terms : List Term) : List Term :=
  match terms.filter (!·.isNothing) with
  | [] => terms.take 1
  | rest => rest

/-- Adds a term to a sum. Nothing disappears beside an amount, and where it is what two terms leave
it disappears beside any term. -/
def addTerm (terms : List Term) (t : Term) : List Term :=
  match mergeInto? t terms with
  | some merged => withoutNothing merged
  | none =>
    let all := terms ++ [t]
    if 2 ≤ all.countP Term.isAmount then withoutNothing all else all

def add (a b : Calculation) : Calculation := ⟨b.terms.foldl addTerm a.terms⟩

def scale (factor : Float32) (c : Calculation) : Calculation := ⟨c.terms.map (·.scale factor)⟩

def times? (a b : Calculation) : Option Calculation :=
  match b.number?, a.number? with
  | some v, _ => some (a.scale v)
  | none, some v => some (b.scale v)
  | none, none => none

def over? (a b : Calculation) : Option Calculation := do
  let v ← b.number?
  if v == 0 then none else some (a.scale (1 / v))

def lift (f : Term → Option Term) (c : Calculation) : Calculation :=
  match c.term? >>= f with
  | some t => ⟨[t]⟩
  | none => unresolved

def lift₂ (f : Term → Term → Option Term) (a b : Calculation) : Calculation :=
  match a.term?, b.term? with
  | some s, some t => ((f s t).map fun r ↦ ⟨[r]⟩).getD unresolved
  | _, _ => unresolved

def compare? (a b : Calculation) : Option Ordering := do
  (← a.term?).compare? (← b.term?)

/-- Puts a result in the place of the first that it can be compared with, if it comes first in the
given order, and behind all others if there is none. -/
def keep (order : Ordering) (c : Calculation) : List Calculation → List Calculation
  | [] => [c]
  | d :: rest =>
    match c.compare? d with
    | some o => (if o == order then c else d) :: rest
    | none => d :: keep order c rest

def extreme (order : Ordering) (all : List Calculation) : Calculation :=
  match all.foldl (fun kept c ↦ keep order c kept) [] with
  | [c] => c
  | _ => unresolved

def compareAmounts? (a b : Calculation) : Option Ordering :=
  if a.amount?.isSome && b.amount?.isSome then a.compare? b else none

/-- A result kept between two others; the lower limit is the stronger one. -/
def clamp (low c high : Calculation) : Calculation :=
  let (c, open_) := match compareAmounts? c high with
    | some .gt => (high, false)
    | some _ => (c, false)
    | none => (c, true)
  match compareAmounts? c low with
  | some o => if open_ then unresolved else if o == .lt then low else c
  | none => unresolved

def hypot : List Calculation → Calculation
  | [] => unresolved
  | [c] => c
  | [c, d] => lift₂ (Term.combine? fun v w ↦ (v * v + w * w).sqrt) c d
  | c :: rest =>
    let squares := rest.foldl (lift₂ (Term.combine? fun v w ↦ v + w * w))
      (c.lift (Term.map? fun v ↦ v * v))
    squares.lift (Term.map? Float32.sqrt)

def signOf (v : Float32) : Float32 :=
  if v > 0 then 1 else if v < 0 then -1 else v

def sign (c : Calculation) : Calculation :=
  c.lift fun t ↦
    match t.map? signOf with
    | some (.amount _ v) => some (.number v)
    | t => t

end Calculation
end StyleTypings.Css
