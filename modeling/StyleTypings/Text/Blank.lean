import StyleTypings.Unicode.Property

namespace StyleTypings.Text

/-- The Unicode property `White_Space`. -/
def isBlank (c : Char) : Bool := Unicode.member Unicode.whiteSpace c.toNat

def trimEnd (text : String) : String :=
  String.ofList (text.toList.reverse.dropWhile isBlank).reverse

/-- A text without the white space at both ends. -/
def trim (text : String) : String :=
  String.ofList ((text.toList.dropWhile isBlank).reverse.dropWhile isBlank).reverse

end StyleTypings.Text
