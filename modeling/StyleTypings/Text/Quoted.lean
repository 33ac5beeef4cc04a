import StyleTypings.Unicode.Category
import StyleTypings.Unicode.Property

namespace StyleTypings.Text

def hexText (n : Nat) : String :=
  String.ofList (Nat.toDigits 16 n)

/-- Whether a character shows something of its own: it is no control, format, unassigned or private
character, and no separator but the blank. -/
def isShown (c : Char) : Bool :=
  c == ' ' || !(["Cc", "Cf", "Cs", "Co", "Cn", "Zl", "Zp", "Zs"].contains (Unicode.category c))

def quotedChar (quote c : Char) : String :=
  if c == '\x00' then "\\0"
  else if c == '\t' then "\\t"
  else if c == '\r' then "\\r"
  else if c == '\n' then "\\n"
  else if c == '\\' || c == quote then String.ofList ['\\', c]
  else if 0x20 ≤ c.toNat && c.toNat < 0x7f then String.singleton c
  else if Unicode.member Unicode.graphemeExtend c.toNat || !isShown c then
    "\\u\x7b" ++ hexText c.toNat ++ "\x7d"
  else String.singleton c

def quoted (text : String) : String :=
  "\"" ++ String.join (text.toList.map (quotedChar '"')) ++ "\""

def quotedOne (c : Char) : String :=
  "'" ++ quotedChar '\'' c ++ "'"

end StyleTypings.Text
