namespace StyleTypings.Css

/-- Lines and columns count from 1, and a column counts UTF-16 code units. -/
structure Pos where
  line : Nat
  column : Nat
deriving DecidableEq, Repr, Inhabited

def Pos.start : Pos := ⟨1, 1⟩

def isNewline (c : Char) : Bool :=
  c == '\n' || c == '\r' || c == '\x0c'

def endsLine (c : Char) (rest : List Char) : Bool :=
  c == '\n' || c == '\x0c' || (c == '\r' && rest.head? != some '\n')

def units16 (c : Char) : Nat :=
  if c.toNat ≤ 0xffff then 1 else 2

def Pos.step (p : Pos) (c : Char) (rest : List Char) : Pos :=
  if endsLine c rest then ⟨p.line + 1, 1⟩ else ⟨p.line, p.column + units16 c⟩

/-- A text that is being read, with the place of its first character. -/
structure Source where
  chars : List Char
  pos : Pos
deriving Repr, Inhabited

def Source.ofString (text : String) : Source := ⟨text.toList, .start⟩

def Source.tail : Source → Source
  | ⟨[], p⟩ => ⟨[], p⟩
  | ⟨c :: cs, p⟩ => ⟨cs, p.step c cs⟩

def Source.drop : Nat → Source → Source
  | 0, s => s
  | n + 1, s => Source.drop n s.tail

theorem Source.length_tail (s : Source) : s.tail.chars.length = s.chars.length - 1 := by
  obtain ⟨_ | ⟨c, cs⟩, p⟩ := s <;> rfl

theorem Source.length_tail_le (s : Source) : s.tail.chars.length ≤ s.chars.length := by
  rw [s.length_tail]
  omega

theorem Source.length_tail_lt {s : Source} {c : Char} {cs : List Char} (h : s.chars = c :: cs) :
    s.tail.chars.length < s.chars.length := by
  rw [s.length_tail, h, List.length_cons]
  omega

def Source.startsWith (s : Source) (chars : List Char) : Bool :=
  chars.isPrefixOf s.chars

/-- Reads on while `f` holds; `acc` holds what was read before, last character first. -/
def Source.spanAux (f : Char → Bool) : List Char → List Char → Pos → List Char × Source
  | acc, [], p => (acc.reverse, ⟨[], p⟩)
  | acc, c :: cs, p =>
    if f c then spanAux f (c :: acc) cs (p.step c cs) else (acc.reverse, ⟨c :: cs, p⟩)

def Source.span (f : Char → Bool) (s : Source) : List Char × Source :=
  Source.spanAux f [] s.chars s.pos

end StyleTypings.Css
