namespace StyleTypings.Text

abbrev Bytes := List UInt8

def encode (text : String) : Bytes := text.toUTF8.toList

def decode? (bytes : Bytes) : Option String := String.fromUTF8? ⟨bytes.toArray⟩

inductive Unit8 where
  | char (c : Char)
  | invalid (length : Nat)
  /-- The beginning of a character that the end of the bytes cuts off. -/
  | incomplete
deriving DecidableEq, Repr, Inhabited

/-- For the first byte of a character: how many bytes follow it, the bounds of the next one, and the
bits it holds. -/
def leading? (b : UInt8) : Option (Nat × UInt8 × UInt8 × Nat) :=
  if b < 0x80 then some (0, 0x80, 0xbf, b.toNat)
  else if b < 0xc2 then none
  else if b < 0xe0 then some (1, 0x80, 0xbf, b.toNat % 32)
  else if b == 0xe0 then some (2, 0xa0, 0xbf, 0)
  else if b == 0xed then some (2, 0x80, 0x9f, 13)
  else if b < 0xf0 then some (2, 0x80, 0xbf, b.toNat % 16)
  else if b == 0xf0 then some (3, 0x90, 0xbf, 0)
  else if b < 0xf4 then some (3, 0x80, 0xbf, b.toNat % 8)
  else if b == 0xf4 then some (3, 0x80, 0x8f, 4)
  else none

/-- Reads the bytes that follow a leading one: `need` more of them, the next one between `low` and
`high`; `used` were read before, and they hold `value`. -/
def following (used value : Nat) (low high : UInt8) : (need : Nat) → Bytes → Unit8 × Bytes
  | 0, rest => (.char (Char.ofNat value), rest)
  | _ + 1, [] => (.incomplete, [])
  | need + 1, b :: rest =>
    if low ≤ b && b ≤ high then
      following (used + 1) (value * 64 + b.toNat % 64) 0x80 0xbf need rest
    else (.invalid used, b :: rest)

def firstUnit (b : UInt8) (rest : Bytes) : Unit8 × Bytes :=
  match leading? b with
  | none => (.invalid 1, rest)
  | some (need, low, high, bits) => following 1 bits low high need rest

theorem length_following_le (used value : Nat) (low high : UInt8) (need : Nat) (bytes : Bytes) :
    (following used value low high need bytes).2.length ≤ bytes.length := by
  induction need generalizing used value low high bytes with
  | zero => simp [following]
  | succ need ih =>
    cases bytes with
    | nil => simp [following]
    | cons b rest =>
      simp only [following]
      split
      · exact Nat.le_trans (ih _ _ _ _ _) (Nat.le_succ _)
      · exact Nat.le_refl _

theorem length_firstUnit_le (b : UInt8) (rest : Bytes) :
    (firstUnit b rest).2.length ≤ rest.length := by
  simp only [firstUnit]
  split
  · exact Nat.le_refl _
  · exact length_following_le _ _ _ _ _ _

def unitsFrom (place : Nat) : Bytes → List (Nat × Unit8)
  | [] => []
  | b :: rest =>
    have := length_firstUnit_le b rest
    let after := (firstUnit b rest).2
    (place, (firstUnit b rest).1) ::
      unitsFrom (place + (rest.length + 1 - after.length)) after
termination_by bytes => bytes.length
decreasing_by exact Nat.lt_succ_of_le this

def Unit8.shown : Unit8 → Char
  | .char c => c
  | _ => '\ufffd'

/-- Puts U+FFFD in the place of each maximal invalid part: the longest beginning of a character that
the bytes still allow, or one byte if there is none. -/
def lossy (bytes : Bytes) : String :=
  match decode? bytes with
  | some text => text
  | none => String.ofList ((unitsFrom 0 bytes).map fun (_, u) ↦ u.shown)

def utf8Complaint (bytes : Bytes) : String :=
  match (unitsFrom 0 bytes).find? fun (_, u) ↦ !(u matches .char _) with
  | some (place, .invalid length) =>
    "invalid utf-8 sequence of " ++ toString length ++ " bytes from index " ++ toString place
  | some (place, _) => "incomplete utf-8 byte sequence from index " ++ toString place
  | none => ""

end StyleTypings.Text
