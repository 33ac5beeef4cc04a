import StyleTypings.Path

namespace StyleTypings

inductive Dialect where
  | css
  | scss
  | sass
deriving DecidableEq, Repr, Inhabited

/-- How a stylesheet is written that has to be compiled. -/
inductive Form where
  | scss
  | indented
deriving DecidableEq, Repr, Inhabited

namespace Dialect

def extension : Dialect → String
  | .css => "css"
  | .scss => "scss"
  | .sass => "sass"

def all : List Dialect := [.css, .scss, .sass]

def ofExtension? (e : String) : Option Dialect := all.find? (·.extension == e)

/-- The language of the stylesheet at a path; a path without extension counts as one with an empty
one, which is that of no language. -/
def ofPath? (path : String) : Option Dialect := ofExtension? ((Path.extension? path).getD "")

def form? : Dialect → Option Form
  | .css => none
  | .scss => some .scss
  | .sass => some .indented

end Dialect

namespace Module

def ending (d : Dialect) : List Char := ".module.".toList ++ d.extension.toList

def isModule (path : String) : Bool :=
  Dialect.all.any fun d ↦ (ending d).isSuffixOf path.toList

def typingsEnding : String := ".d.ts"

def typingsPath (path : String) : String := path ++ typingsEnding

end Module
end StyleTypings
