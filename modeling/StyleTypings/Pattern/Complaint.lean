namespace StyleTypings.Pattern

structure Place where
  line : Nat
  column : Nat
deriving DecidableEq, Repr, Inhabited

def Place.start : Place := ⟨1, 1⟩

def Place.step (p : Place) (c : Char) : Place :=
  if c == '\n' then ⟨p.line + 1, 1⟩ else ⟨p.line, p.column + 1⟩

structure Span where
  start : Place
  stop : Place
deriving DecidableEq, Repr, Inhabited

inductive Fault where
  | groupUnclosed
  | groupUnopened
  | groupNameDuplicate (first : Span)
  | groupNameEmpty
  | groupNameInvalid
  | groupNameUnclosed
  | classUnclosed
  | classEscapeInvalid
  | classRangeInvalid
  | classRangeLiteral
  | repetitionMissing
  | countUnclosed
  | countEmpty
  | countInvalid
  | decimalInvalid
  | escapeEnd
  | escapeUnrecognized
  | backreference
  | lookAround
  | hexEmpty
  | hexInvalid
  | hexDigit
  | flagUnrecognized
  | flagDuplicate (first : Span)
  | flagRepeatedNegation (first : Span)
  | flagDanglingNegation
  | flagEnd
  | wordBoundaryUnclosed
  | wordBoundaryUnrecognized
  | wordBoundaryEnd
  | classNameInvalid
  | nestingTooDeep
  | propertyNotFound
  | propertyValueNotFound
  | unicodeNotAllowed
  | invalidUtf8
deriving DecidableEq, Repr, Inhabited

def nestingLimit : Nat := 250

def Fault.message : Fault → String
  | .groupUnclosed => "unclosed group"
  | .groupUnopened => "unopened group"
  | .groupNameDuplicate _ => "duplicate capture group name"
  | .groupNameEmpty => "empty capture group name"
  | .groupNameInvalid => "invalid capture group character"
  | .groupNameUnclosed => "unclosed capture group name"
  | .classUnclosed => "unclosed character class"
  | .classEscapeInvalid => "invalid escape sequence found in character class"
  | .classRangeInvalid => "invalid character class range, the start must be <= the end"
  | .classRangeLiteral => "invalid range boundary, must be a literal"
  | .repetitionMissing => "repetition operator missing expression"
  | .countUnclosed => "unclosed counted repetition"
  | .countEmpty => "repetition quantifier expects a valid decimal"
  | .countInvalid => "invalid repetition count range, the start must be <= the end"
  | .decimalInvalid => "decimal literal invalid"
  | .escapeEnd => "incomplete escape sequence, reached end of pattern prematurely"
  | .escapeUnrecognized => "unrecognized escape sequence"
  | .backreference => "backreferences are not supported"
  | .lookAround => "look-around, including look-ahead and look-behind, is not supported"
  | .hexEmpty => "hexadecimal literal empty"
  | .hexInvalid => "hexadecimal literal is not a Unicode scalar value"
  | .hexDigit => "invalid hexadecimal digit"
  | .flagUnrecognized => "unrecognized flag"
  | .flagDuplicate _ => "duplicate flag"
  | .flagRepeatedNegation _ => "flag negation operator repeated"
  | .flagDanglingNegation => "dangling flag negation operator"
  | .flagEnd => "expected flag but got end of regex"
  | .wordBoundaryUnclosed =>
    "special word boundary assertion is either unclosed or contains an invalid character"
  | .wordBoundaryUnrecognized =>
    "unrecognized special word boundary assertion, valid choices are: " ++
      "start, end, start-half or end-half"
  | .wordBoundaryEnd =>
    "found either the beginning of a special word boundary or a bounded repetition on a \\b " ++
      "with an opening brace, but no closing brace"
  | .classNameInvalid => "invalid Unicode character class"
  | .nestingTooDeep =>
    "exceed the maximum number of nested parentheses/brackets (" ++ toString nestingLimit ++ ")"
  | .propertyNotFound => "Unicode property not found"
  | .propertyValueNotFound => "Unicode property value not found"
  | .unicodeNotAllowed => "Unicode not allowed here"
  | .invalidUtf8 => "pattern can match invalid UTF-8"

def Fault.other? : Fault → Option Span
  | .groupNameDuplicate s | .flagDuplicate s | .flagRepeatedNegation s => some s
  | _ => none

/-- Why a pattern is refused: it is not written as it should be, or it would take too much room. -/
inductive Complaint where
  | malformed (fault : Fault) (span : Span)
  | tooBig
deriving DecidableEq, Repr, Inhabited

/-- The lines of a text. A line feed ends a line, and a carriage return in front of it belongs to
that end; behind the last line feed there is a line only if it holds something. -/
def lines (text : String) : List String :=
  let parts := (text.splitOn "\n").map fun line ↦
    if line.endsWith "\r" then (line.dropEnd 1).toString else line
  match parts.reverse with
  | "" :: rest => rest.reverse
  | _ => parts

def carets (column : Nat) : List Span → String
  | [] => ""
  | s :: rest =>
    let gap := s.start.column - column
    let length := max 1 (s.stop.column - s.start.column)
    String.ofList (List.replicate gap ' ' ++ List.replicate length '^') ++
      carets (column + gap + length) rest

def spaces (n : Nat) : String := String.ofList (List.replicate n ' ')

def annotated (pattern : String) (spans : List Span) : String :=
  let all := lines pattern
  let count := all.length + if pattern.endsWith "\n" then 1 else 0
  let width := if count ≤ 1 then 0 else (toString count).length
  let padding := if width == 0 then 4 else 2 + width
  let line (i : Nat) (text : String) : String :=
    let number := toString (i + 1)
    let front := if width == 0 then spaces 4 else spaces (width - number.length) ++ number ++ ": "
    let here := spans.filter fun s ↦ s.start.line == s.stop.line && s.start.line == i + 1
    front ++ text ++ "\n" ++ if here.isEmpty then "" else spaces padding ++ carets 1 here ++ "\n"
  String.join (all.zipIdx.map fun (text, i) ↦ line i text)

def acrossLines (spans : List Span) : String :=
  let notes := (spans.filter fun s ↦ s.start.line != s.stop.line).map fun s ↦
    "on line " ++ toString s.start.line ++ " (column " ++ toString s.start.column ++
      ") through line " ++ toString s.stop.line ++
      " (column " ++ toString (s.stop.column - 1) ++ ")"
  if notes.isEmpty then "" else String.intercalate "\n" notes ++ "\n"

def Complaint.message (pattern : String) : Complaint → String
  | .tooBig => "Compiled regex exceeds size limit of 10485760 bytes."
  | .malformed fault span =>
    let spans := match fault.other? with
      | some s => if s.start.line < span.start.line ||
          (s.start.line == span.start.line && s.start.column ≤ span.start.column)
        then [s, span] else [span, s]
      | none => [span]
    let divider := String.ofList (List.replicate 79 '~') ++ "\n"
    let frame :=
      if pattern.contains '\n' then
        divider ++ annotated pattern spans ++ divider ++ acrossLines spans
      else annotated pattern spans
    "regex parse error:\n" ++ frame ++ "error: " ++ fault.message

end StyleTypings.Pattern
