namespace StyleTypings.Typings

def header : String := "// AUTO-GENERATED"

def opening : String := header ++ "\ninterface CSSExports \x7b"

def closing : String := " \x7d\nexport const exports: CSSExports;\nexport default exports;"

def escapeChar : Char → List Char
  | '\\' => ['\\', '\\']
  | '\'' => ['\\', '\'']
  | '\n' => ['\\', 'n']
  | '\r' => ['\\', 'r']
  | c => [c]

def escape (name : List Char) : List Char := name.flatMap escapeChar

def keyOpening : List Char := " '".toList

def keyClosing : List Char := "': string;".toList

def property (name : String) : List Char := keyOpening ++ escape name.toList ++ keyClosing

/-- The document of some names; it does not end its last line. -/
def render (names : List String) : String :=
  String.ofList (opening.toList ++ names.flatMap property ++ closing.toList)

end StyleTypings.Typings
