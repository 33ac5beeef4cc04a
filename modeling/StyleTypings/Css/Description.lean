import StyleTypings.Css.Token
import StyleTypings.Decimal.Shortest
import StyleTypings.Text.Quoted

namespace StyleTypings.Css

open Text Decimal

def wholeText : Option Int → String
  | some n => "Some(" ++ toString n ++ ")"
  | none => "None"

def Numeric.describe (num : Numeric) (valueName : String) (unit : Option String) : String :=
  " \x7b has_sign: " ++ toString num.signed ++ ", " ++ valueName ++ ": " ++
    binary32Text num.value ++ ", int_value: " ++ wholeText num.whole ++
    (match unit with
      | some u => ", unit: " ++ quoted u
      | none => "") ++ " \x7d"

def Token.describe : Token → String
  | .ident name => "Ident(" ++ quoted name ++ ")"
  | .atKeyword name => "AtKeyword(" ++ quoted name ++ ")"
  | .hash name => "Hash(" ++ quoted name ++ ")"
  | .idHash name => "IDHash(" ++ quoted name ++ ")"
  | .string text => "String(" ++ quoted text ++ ")"
  | .unquotedUrl text => "UnquotedUrl(" ++ quoted text ++ ")"
  | .delim c => "Delim(" ++ quotedOne c ++ ")"
  | .number num => "Number" ++ num.describe "value" none
  | .percentage num => "Percentage" ++ num.describe "unit_value" none
  | .dimension num unit => "Dimension" ++ num.describe "value" (some unit)
  | .whiteSpace text => "WhiteSpace(" ++ quoted text ++ ")"
  | .comment text => "Comment(" ++ quoted text ++ ")"
  | .colon => "Colon"
  | .semicolon => "Semicolon"
  | .comma => "Comma"
  | .includeMatch => "IncludeMatch"
  | .dashMatch => "DashMatch"
  | .prefixMatch => "PrefixMatch"
  | .suffixMatch => "SuffixMatch"
  | .substringMatch => "SubstringMatch"
  | .cdo => "CDO"
  | .cdc => "CDC"
  | .function name => "Function(" ++ quoted name ++ ")"
  | .openParen => "ParenthesisBlock"
  | .openSquare => "SquareBracketBlock"
  | .openCurly => "CurlyBracketBlock"
  | .badUrl text => "BadUrl(" ++ quoted text ++ ")"
  | .badString text => "BadString(" ++ quoted text ++ ")"
  | .closeParen => "CloseParenthesis"
  | .closeSquare => "CloseSquareBracket"
  | .closeCurly => "CloseCurlyBracket"

end StyleTypings.Css
