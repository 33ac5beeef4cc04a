namespace StyleTypings.Unicode

structure Range where
  first : Nat
  last : Nat
deriving DecidableEq, Repr, Inhabited

abbrev Ranges := List Range

def lastScalar : Nat := 0x10ffff

/-- Reads a table that gives the length of each run followed by its label, as in `32Cc1Zs`; `length`
and `label` hold what is known of the current run. -/
def readLabels (first length : Nat) (label : List Char) : List Char → List (Range × String)
  | [] => [(⟨first, first + length - 1⟩, String.ofList label.reverse)]
  | c :: rest =>
    if c.isDigit then
      if label.isEmpty then readLabels first (length * 10 + (c.toNat - 48)) [] rest
      else
        (⟨first, first + length - 1⟩, String.ofList label.reverse) ::
          readLabels (first + length) (c.toNat - 48) [] rest
    else readLabels first length (c :: label) rest

def labelled (table : String) : Array (Range × String) :=
  (readLabels 0 0 [] table.toList).toArray

/-- Reads numbers parted by single blanks; `n` is what is known of the current one. -/
def readNumbersFrom (n : Nat) : List Char → List Nat
  | [] => [n]
  | c :: rest =>
    if c == ' ' then n :: readNumbersFrom 0 rest
    else readNumbersFrom (n * 10 + (c.toNat - 48)) rest

def readNumbers (table : String) : List Nat := readNumbersFrom 0 table.toList

/-- The runs of a table that lie inside a property, where the lengths are those of runs outside and
inside in turn. -/
def insideRuns (first : Nat) : List Nat → Ranges
  | outside :: inside :: rest =>
    let start := first + outside
    ⟨start, start + inside - 1⟩ :: insideRuns (start + inside) rest
  | _ => []

def property (table : String) : Ranges :=
  insideRuns 0 (readNumbers table)

def findRange (ranges : Array Range) (n : Nat) : Nat → Nat → Nat → Option Nat
  | 0, _, _ => none
  | steps + 1, low, high =>
    if low < high then
      let middle := (low + high) / 2
      match ranges[middle]? with
      | some r =>
        if n < r.first then findRange ranges n steps low middle
        else if r.last < n then findRange ranges n steps (middle + 1) high
        else some middle
      | none => none
    else none

def member (ranges : Array Range) (n : Nat) : Bool :=
  (findRange ranges n (ranges.size + 1) 0 ranges.size).isSome

end StyleTypings.Unicode
