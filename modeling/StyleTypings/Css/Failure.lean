import StyleTypings.Css.Description
import StyleTypings.Css.Position

namespace StyleTypings.Css

inductive Cause where
  | endOfInput
  | unexpectedToken (token : Token)
  | unknownAtRule (name : String)
  | invalidAtRuleBody
  | invalidQualifiedRule
  | invalidDeclaration
  | invalidValue
  | invalidMediaQuery
  | emptyBrackets
  | misplacedImport
  | misplacedNamespace
  | nestingTooDeep
  | emptySelector
  | danglingCombinator
  | missingNestingSelector
  | invalidState
  | afterPseudoElement (token : Token)
  | classNeedsIdent (token : Token)
  | pseudoNeedsIdent (token : Token)
  | namespaceNeedsName (token : Token)
  | attributeNeedsName (token : Token)
  | attributeNeedsBar (token : Token)
  | attributeBadName (token : Token)
  | attributeBadOperator (token : Token)
  | attributeBadValue (token : Token)
  | pseudoClassAfterElement
  | pseudoClassAfterScrollbar
  | pseudoClassWithoutScrollbar
deriving DecidableEq, Repr, Inhabited

def Cause.message : Cause → String
  | .endOfInput => "Unexpected end of input"
  | .unexpectedToken t => "Unexpected token " ++ t.describe
  | .unknownAtRule name => "Unknown at rule: @" ++ name
  | .invalidAtRuleBody => "Invalid @ rule body"
  | .invalidQualifiedRule => "Invalid qualified rule"
  | .invalidDeclaration => "Invalid declaration"
  | .invalidValue => "Invalid value"
  | .invalidMediaQuery => "Invalid media query"
  | .emptyBrackets => "The brackets cannot be empty"
  | .misplacedImport =>
    "@import rules must precede all rules aside from @charset and @layer statements"
  | .misplacedNamespace =>
    "@namespaces rules must precede all rules aside from @charset, @import, and @layer statements"
  | .nestingTooDeep => "Overflowed the maximum nesting depth"
  | .emptySelector => "Invalid empty selector"
  | .danglingCombinator => "Invalid dangling combinator in selector"
  | .missingNestingSelector =>
    "A nesting selector (&) is required in each selector of a @nest rule"
  | .invalidState => "Invalid state"
  | .afterPseudoElement t =>
    "Pseudo-elements like '::before' or '::after' can't be followed by selectors like '" ++
      t.describe ++ "'"
  | .classNeedsIdent t => "Expected identifier in class selector, got " ++ t.describe
  | .pseudoNeedsIdent t => "Invalid token in pseudo element: " ++ t.describe
  | .namespaceNeedsName t => "Unexpected token in namespace selector: " ++ t.describe
  | .attributeNeedsName t => "No qualified name in attribute selector: " ++ t.describe ++ "."
  | .attributeNeedsBar t => "Expected | in attribute, got " ++ t.describe
  | .attributeBadName t => "Invalid qualified name in attribute selector: " ++ t.describe
  | .attributeBadOperator t => "Unexpected token in attribute selector: " ++ t.describe
  | .attributeBadValue t => "Invalid value in attribute selector: " ++ t.describe
  | .pseudoClassAfterElement =>
    "Invalid pseudo class after pseudo element, only user action pseudo classes " ++
      "(e.g. :hover, :active) are allowed"
  | .pseudoClassAfterScrollbar =>
    "Invalid pseudo class after ::-webkit-scrollbar pseudo element"
  | .pseudoClassWithoutScrollbar =>
    "Pseudo class must be prefixed by a ::-webkit-scrollbar pseudo element"

structure Failure where
  cause : Cause
  pos : Pos
deriving DecidableEq, Repr, Inhabited

end StyleTypings.Css
