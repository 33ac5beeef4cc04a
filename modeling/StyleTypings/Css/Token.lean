namespace StyleTypings.Css

/-- The value of a numeric token: whether a sign was written, the nearest binary32 value, and the
whole number it denotes when it has neither fraction nor exponent, kept within 32 bits. -/
structure Numeric where
  signed : Bool
  value : UInt32
  whole : Option Int
deriving DecidableEq, Repr, Inhabited

def Numeric.float (n : Numeric) : Float32 := Float32.ofBits n.value

/-- The tokens of a stylesheet, as CSS Syntax Level 3 names them. White space and comments are
tokens too; one that opens a block stands for its first character or name only. -/
inductive Token where
  | ident (name : String)
  | atKeyword (name : String)
  /-- A hash that is no identifier, such as `#1`. -/
  | hash (name : String)
  | idHash (name : String)
  | string (text : String)
  | unquotedUrl (text : String)
  | delim (c : Char)
  | number (num : Numeric)
  | percentage (num : Numeric)
  | dimension (num : Numeric) (unit : String)
  | whiteSpace (text : String)
  | comment (text : String)
  | colon
  | semicolon
  | comma
  | includeMatch
  | dashMatch
  | prefixMatch
  | suffixMatch
  | substringMatch
  | cdo
  | cdc
  | function (name : String)
  | openParen
  | openSquare
  | openCurly
  | badUrl (text : String)
  | badString (text : String)
  | closeParen
  | closeSquare
  | closeCurly
deriving DecidableEq, Repr, Inhabited

def Token.isBlank : Token → Bool
  | .whiteSpace _ | .comment _ => true
  | _ => false

def Token.closer? : Token → Option Token
  | .function _ | .openParen => some .closeParen
  | .openSquare => some .closeSquare
  | .openCurly => some .closeCurly
  | _ => none

def Token.isError : Token → Bool
  | .badUrl _ | .badString _ | .closeParen | .closeSquare | .closeCurly => true
  | _ => false

end StyleTypings.Css
