import StyleTypings.Unicode.Category
import StyleTypings.Unicode.Fold
import StyleTypings.Unicode.Property
import StyleTypings.Unicode.Script

namespace StyleTypings.Pattern

open Unicode (Range Ranges)

/-- A set of characters: ranges in ascending order that do not touch. -/
structure CharSet where
  ranges : Ranges
deriving DecidableEq, Repr, Inhabited

namespace CharSet

/-- Joins ranges that overlap or touch; the ranges come in ascending order of their first
members. -/
def merge : Ranges → Ranges
  | [] => []
  | r :: rest =>
    match merge rest with
    | [] => [r]
    | s :: more =>
      if s.first ≤ r.last + 1 then ⟨r.first, max r.last s.last⟩ :: more else r :: s :: more

def ofRanges (ranges : Ranges) : CharSet :=
  ⟨merge (ranges.mergeSort fun a b ↦ a.first ≤ b.first)⟩

def empty : CharSet := ⟨[]⟩

def all : CharSet := ⟨[⟨0, Unicode.lastScalar⟩]⟩

def single (c : Char) : CharSet := ⟨[⟨c.toNat, c.toNat⟩]⟩

def between (a b : Char) : CharSet := ⟨[⟨a.toNat, b.toNat⟩]⟩

def contains (s : CharSet) (c : Char) : Bool :=
  s.ranges.any fun r ↦ r.first ≤ c.toNat && c.toNat ≤ r.last

def gaps (last : Nat) : (next : Nat) → Ranges → Ranges
  | next, [] => if next ≤ last then [⟨next, last⟩] else []
  | next, r :: rest =>
    if next < r.first then ⟨next, r.first - 1⟩ :: gaps last (r.last + 1) rest
    else gaps last (max next (r.last + 1)) rest

def complementUpTo (last : Nat) (s : CharSet) : CharSet := ⟨gaps last 0 s.ranges⟩

def complement (s : CharSet) : CharSet := s.complementUpTo Unicode.lastScalar

def union (a b : CharSet) : CharSet := ofRanges (a.ranges ++ b.ranges)

def intersection (a b : CharSet) : CharSet := (a.complement.union b.complement).complement

def difference (a b : CharSet) : CharSet := a.intersection b.complement

def symmetricDifference (a b : CharSet) : CharSet := (a.difference b).union (b.difference a)

def isUpTo (last : Nat) (s : CharSet) : Bool := s.ranges.all fun r ↦ r.last ≤ last

def fold (s : CharSet) : CharSet :=
  let more := Unicode.foldClasses.filter fun members ↦
    members.any fun n ↦ s.ranges.any fun r ↦ r.first ≤ n && n ≤ r.last
  ofRanges (s.ranges ++ more.flatten.map fun n ↦ ⟨n, n⟩)

def foldAscii (s : CharSet) : CharSet :=
  let shifted (r : Range) (low high target : Nat) : Ranges :=
    let first := max r.first low
    let last := min r.last high
    if first ≤ last then [⟨first - low + target, last - low + target⟩] else []
  ofRanges (s.ranges ++ s.ranges.flatMap fun r ↦ shifted r 65 90 97 ++ shifted r 97 122 65)

def ascii (name : String) : CharSet :=
  let r (a b : Char) : Range := ⟨a.toNat, b.toNat⟩
  match name with
  | "alnum" => ofRanges [r '0' '9', r 'A' 'Z', r 'a' 'z']
  | "alpha" => ofRanges [r 'A' 'Z', r 'a' 'z']
  | "ascii" => ofRanges [⟨0, 127⟩]
  | "blank" => ofRanges [r '\t' '\t', r ' ' ' ']
  | "cntrl" => ofRanges [⟨0, 31⟩, ⟨127, 127⟩]
  | "digit" => ofRanges [r '0' '9']
  | "graph" => ofRanges [r '!' '~']
  | "lower" => ofRanges [r 'a' 'z']
  | "print" => ofRanges [r ' ' '~']
  | "punct" => ofRanges [r '!' '/', r ':' '@', r '[' (Char.ofNat 96), r '\x7b' '~']
  | "space" => ofRanges [⟨9, 13⟩, r ' ' ' ']
  | "upper" => ofRanges [r 'A' 'Z']
  | "word" => ofRanges [r '0' '9', r 'A' 'Z', r '_' '_', r 'a' 'z']
  | "xdigit" => ofRanges [r '0' '9', r 'A' 'F', r 'a' 'f']
  | _ => empty

def digit : CharSet := ofRanges (Unicode.ofCategory "Nd")

def space : CharSet := ofRanges (Unicode.ofProperty "White_Space")

/-- Characters of words: letters, marks, digits, connecting punctuation and joiners. -/
def word : CharSet :=
  ofRanges (Unicode.ofProperty "Alphabetic" ++ Unicode.ofCategory "M" ++ Unicode.ofCategory "Nd" ++
    Unicode.ofCategory "Pc" ++ Unicode.ofProperty "Join_Control")

def isWord (c : Char) : Bool := word.contains c

/-- A name of a property or a value, with what does not matter left out: case, blanks, hyphens,
underscores, and `is` at the beginning. -/
def normalized (name : String) : String :=
  let lower := name.toLower.toList
  let isPrefixed := ['i', 's'].isPrefixOf lower
  let kept := (if isPrefixed then lower.drop 2 else lower).filter fun c ↦
    c.toNat < 128 && c != ' ' && c != '_' && c != '-'
  if isPrefixed && kept == ['c'] then "isc" else String.ofList kept

def propertyAliases : List (String × String) := [
  ("ahex", "ASCII_Hex_Digit"), ("alpha", "Alphabetic"), ("bidic", "Bidi_Control"),
  ("bidim", "Bidi_Mirrored"), ("ci", "Case_Ignorable"), ("cwcf", "Changes_When_Casefolded"),
  ("cwcm", "Changes_When_Casemapped"), ("cwl", "Changes_When_Lowercased"),
  ("cwt", "Changes_When_Titlecased"), ("cwu", "Changes_When_Uppercased"),
  ("di", "Default_Ignorable_Code_Point"), ("dep", "Deprecated"), ("dia", "Diacritic"),
  ("ecomp", "Emoji_Component"), ("emod", "Emoji_Modifier"), ("ebase", "Emoji_Modifier_Base"),
  ("epres", "Emoji_Presentation"), ("extpict", "Extended_Pictographic"), ("ext", "Extender"),
  ("grbase", "Grapheme_Base"), ("grext", "Grapheme_Extend"), ("hex", "Hex_Digit"),
  ("idsb", "IDS_Binary_Operator"), ("idst", "IDS_Trinary_Operator"), ("idc", "ID_Continue"),
  ("ids", "ID_Start"), ("ideo", "Ideographic"), ("joinc", "Join_Control"),
  ("loe", "Logical_Order_Exception"), ("lower", "Lowercase"),
  ("nchar", "Noncharacter_Code_Point"), ("patsyn", "Pattern_Syntax"),
  ("patws", "Pattern_White_Space"), ("qmark", "Quotation_Mark"), ("ri", "Regional_Indicator"),
  ("sterm", "Sentence_Terminal"), ("sd", "Soft_Dotted"), ("term", "Terminal_Punctuation"),
  ("uideo", "Unified_Ideograph"), ("upper", "Uppercase"), ("vs", "Variation_Selector"),
  ("wspace", "White_Space"), ("space", "White_Space"), ("xidc", "XID_Continue"),
  ("xids", "XID_Start")]

def property? (name : String) : Option CharSet :=
  let full := (propertyAliases.lookup name).or <|
    (Unicode.propertyTable.find? fun (long, _) ↦ normalized long == name).map Prod.fst
  full.map fun full ↦ ofRanges (Unicode.ofProperty full)

def ofCategory (short : String) : CharSet :=
  if short == "LC" then
    ofRanges (Unicode.ofCategory "Lu" ++ Unicode.ofCategory "Ll" ++ Unicode.ofCategory "Lt")
  else ofRanges (Unicode.ofCategory short)

def category? (name : String) : Option CharSet :=
  match name with
  | "any" => some all
  | "assigned" => some (ofCategory "Cn").complement
  | "ascii" => some (ascii "ascii")
  | _ =>
    (Unicode.categoryNames.find? fun (long, short) ↦
      normalized long == name || normalized short == name).map fun (_, short) ↦ ofCategory short

def scriptName? (name : String) : Option String :=
  (Unicode.scriptNames.find? fun (long, short) ↦
    normalized long == name || normalized short == name).map (·.2)

def ofScript (short : String) : CharSet := ofRanges (Unicode.ofScript short)

def ofScriptExtension (short : String) : CharSet :=
  (ofScript short).symmetricDifference (ofRanges (Unicode.scriptExtension short))

/-- The characters that a single name stands for: of a property, a general category or a script. -/
def named? (name : String) : Option CharSet :=
  let name := normalized name
  let byProperty := if ["cf", "sc", "lc"].contains name then none else property? name
  byProperty.or ((category? name).or ((scriptName? name).map ofScript))

inductive Missing where
  | property
  | value
deriving DecidableEq, Repr

def valued (property value : String) : Except Missing CharSet :=
  let value := normalized value
  let orMissing (s : Option CharSet) : Except Missing CharSet :=
    match s with
    | some s => .ok s
    | none => .error .value
  match normalized property with
  | "gc" | "generalcategory" => orMissing (category? value)
  | "sc" | "script" => orMissing ((scriptName? value).map ofScript)
  | "scx" | "scriptextensions" => orMissing ((scriptName? value).map ofScriptExtension)
  | name => .error (if (property? name).isSome then .value else .property)

end CharSet
end StyleTypings.Pattern
