namespace StyleTypings.Decimal

structure Format where
  fraction : Nat
  least : Int
deriving DecidableEq, Repr

def Format.binary32 : Format := ⟨23, -149⟩
def Format.binary64 : Format := ⟨52, -1074⟩

/-- A finite positive value: `m · 2 ^ q`, and whether the value below is only half as far away as
the one above. -/
structure Binary where
  m : Nat
  q : Int
  narrow : Bool
deriving DecidableEq, Repr

def Binary.ofBits (format : Format) (bits : Nat) : Binary :=
  let e : Nat := bits / Nat.pow 2 format.fraction
  let f : Nat := bits % Nat.pow 2 format.fraction
  if e = 0 then ⟨f, format.least, false⟩
  else ⟨f + Nat.pow 2 format.fraction, format.least + (e - 1), f == 0 && e > 1⟩

structure Ratio where
  num : Nat
  den : Nat
deriving DecidableEq, Repr

def Ratio.scaled (n : Nat) (q : Int) : Ratio :=
  if 0 ≤ q then ⟨n * Nat.pow 2 q.toNat, 1⟩ else ⟨n, Nat.pow 2 (-q).toNat⟩

def Ratio.tenTo (e : Int) : Ratio :=
  if 0 ≤ e then ⟨Nat.pow 10 e.toNat, 1⟩ else ⟨1, Nat.pow 10 (-e).toNat⟩

def Ratio.mul (a b : Ratio) : Ratio := ⟨a.num * b.num, a.den * b.den⟩
def Ratio.div (a b : Ratio) : Ratio := ⟨a.num * b.den, a.den * b.num⟩
def Ratio.lt (a b : Ratio) : Bool := a.num * b.den < b.num * a.den
def Ratio.le (a b : Ratio) : Bool := a.num * b.den ≤ b.num * a.den

def Ratio.dist (a b : Ratio) : Ratio :=
  let x := a.num * b.den
  let y := b.num * a.den
  ⟨if x ≤ y then y - x else x - y, a.den * b.den⟩

/-- Whether a ratio rounds to the value; the ends of the interval do when `m` is even. -/
def Binary.covers (v : Binary) (r : Ratio) : Bool :=
  let high := Ratio.scaled (2 * v.m + 1) (v.q - 1)
  let low := if v.narrow then Ratio.scaled (4 * v.m - 1) (v.q - 2)
    else Ratio.scaled (2 * v.m - 1) (v.q - 1)
  if v.m % 2 = 0 then low.le r && r.le high else low.lt r && r.lt high

structure Scientific where
  digits : Nat
  exponent : Int
deriving DecidableEq, Repr

def magnitude (value : Ratio) : Nat → Int → Int
  | 0, e => e
  | n + 1, e => if value.lt (Ratio.tenTo e) then e else magnitude value n (e + 1)

def Binary.onGrid? (v : Binary) (e : Int) : Option Scientific :=
  let value := Ratio.scaled v.m v.q
  let unit := Ratio.tenTo e
  let scaled := value.div unit
  let below := scaled.num / scaled.den
  let at_ (d : Nat) : Ratio := Ratio.mul ⟨d, 1⟩ unit
  let fits (d : Nat) : Bool := 0 < d && v.covers (at_ d)
  match fits below, fits (below + 1) with
  | true, true =>
    if (at_ (below + 1)).dist value |>.lt ((at_ below).dist value) then some ⟨below + 1, e⟩
    else some ⟨below, e⟩
  | true, false => some ⟨below, e⟩
  | false, true => some ⟨below + 1, e⟩
  | false, false => none

def Binary.shortestFrom (v : Binary) (top : Int) : Nat → Nat → Scientific
  | 0, _ => ⟨0, 0⟩
  | n + 1, used => (v.onGrid? (top - used)).getD (v.shortestFrom top n (used + 1))

def Scientific.trim : Nat → Scientific → Scientific
  | 0, d => d
  | n + 1, d =>
    if d.digits % 10 = 0 && d.digits != 0 then
      Scientific.trim n ⟨d.digits / 10, d.exponent + 1⟩
    else d

def Binary.lowMagnitude (v : Binary) : Int :=
  let binary := v.q + v.m.log2
  if 0 ≤ binary then binary * 3 / 10 else binary * 31 / 100 - 1

def Binary.shortest (v : Binary) : Scientific :=
  let top := magnitude (Ratio.scaled v.m v.q) 40 v.lowMagnitude
  Scientific.trim 20 (v.shortestFrom top 18 1)

/-- How a decimal is written: positional if the power of ten of its first digit lies between two
bounds, and with an exponent elsewhere, with or without a plus sign. -/
structure Layout where
  lowest : Int
  highest : Int
  plus : Bool
deriving DecidableEq, Repr

def Layout.text (layout : Layout) (d : Scientific) : String :=
  let digits := (toString d.digits).toList
  let first := d.exponent + digits.length - 1
  if layout.lowest ≤ first && first ≤ layout.highest then
    if 0 ≤ d.exponent then
      String.ofList (digits ++ List.replicate d.exponent.toNat '0') ++ ".0"
    else
      let behind := (-d.exponent).toNat
      let padded := List.replicate (behind + 1 - digits.length) '0' ++ digits
      let whole := padded.length - behind
      String.ofList (padded.take whole) ++ "." ++ String.ofList (padded.drop whole)
  else
    let rest := digits.drop 1
    String.ofList (digits.take 1) ++ (if rest.isEmpty then "" else "." ++ String.ofList rest) ++
      "e" ++ (if layout.plus && 0 ≤ first then "+" else "") ++ toString first

def Format.text (format : Format) (layout : Layout) (width bits : Nat) : String :=
  let size := bits % Nat.pow 2 (width - 1)
  let sign := if bits / Nat.pow 2 (width - 1) % 2 = 1 then "-" else ""
  let infinite := (Nat.pow 2 (width - 1 - format.fraction) - 1) * Nat.pow 2 format.fraction
  if size > infinite then "NaN"
  else if size = infinite then sign ++ "inf"
  else if size = 0 then sign ++ "0.0"
  else sign ++ layout.text (Binary.ofBits format size).shortest

def binary32Text (bits : UInt32) : String :=
  Format.binary32.text ⟨-4, 15, false⟩ 32 bits.toNat

/-- Numbers in messages about configuration are positional from `0.00001` up to but not including
`1e16`, and positive exponents have a sign. -/
def binary64Text (bits : UInt64) : String :=
  Format.binary64.text ⟨-5, 15, true⟩ 64 bits.toNat

end StyleTypings.Decimal
