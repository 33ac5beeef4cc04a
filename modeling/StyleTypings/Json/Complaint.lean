namespace StyleTypings.Json

/-- A place in a text: its line, and the bytes of that line in front of it. -/
structure Place where
  line : Nat
  column : Nat
deriving DecidableEq, Repr, Inhabited

def Place.start : Place := ⟨1, 0⟩

def Place.past (p : Place) (c : Char) : Place :=
  if c == '\n' then ⟨p.line + 1, 0⟩ else ⟨p.line, p.column + c.utf8Size⟩

def Place.pastByte (p : Place) (c : Char) : Place :=
  if c == '\n' then ⟨p.line + 1, 0⟩ else ⟨p.line, p.column + 1⟩

def Place.pastBytes (p : Place) : Nat → List Char → Place
  | _, [] => p
  | n, c :: rest =>
    if c.utf8Size ≤ n then (p.past c).pastBytes (n - c.utf8Size) rest
    else ⟨p.line, p.column + n⟩

inductive Fault where
  | endInObject
  | endInList
  | endInString
  | endInValue
  | valueExpected
  | wordExpected
  | colonExpected
  | commaOrBraceExpected
  | commaOrBracketExpected
  | keyNotString
  | trailingComma
  | trailingCharacters
  | malformedNumber
  | numberTooLarge
  | malformedEscape
  | hexEscapeCutOff
  | loneSurrogate
  | controlCharacter
  | wrongKind (found wanted : String)
  | repeatedKey (key : String)
deriving DecidableEq, Repr, Inhabited

def Fault.text : Fault → String
  | .endInObject => "EOF while parsing an object"
  | .endInList => "EOF while parsing a list"
  | .endInString => "EOF while parsing a string"
  | .endInValue => "EOF while parsing a value"
  | .valueExpected => "expected value"
  | .wordExpected => "expected ident"
  | .colonExpected => "expected `:`"
  | .commaOrBraceExpected => "expected `,` or `\x7d`"
  | .commaOrBracketExpected => "expected `,` or `]`"
  | .keyNotString => "key must be a string"
  | .trailingComma => "trailing comma"
  | .trailingCharacters => "trailing characters"
  | .malformedNumber => "invalid number"
  | .numberTooLarge => "number out of range"
  | .malformedEscape => "invalid escape"
  | .hexEscapeCutOff => "unexpected end of hex escape"
  | .loneSurrogate => "lone leading surrogate in hex escape"
  | .controlCharacter => "control character (\\u0000-\\u001F) found while parsing a string"
  | .wrongKind found wanted => "invalid type: " ++ found ++ ", expected " ++ wanted
  | .repeatedKey key => "duplicate field `" ++ key ++ "`"

structure Complaint where
  fault : Fault
  place : Place
deriving DecidableEq, Repr, Inhabited

def Complaint.message (c : Complaint) : String :=
  c.fault.text ++ " at line " ++ toString c.place.line ++ " column " ++ toString c.place.column

end StyleTypings.Json
