namespace StyleTypings

/-- Parts of the program that can be inspected. -/
inductive Inspectable where
  | extractor
  | toolchain
  | generator
  | writer
deriving DecidableEq, Repr, Inhabited

namespace Inspectable

def closed (name : String) : String := name ++ " \x7b .. \x7d"

def text : Inspectable → String
  | .extractor => closed "SelectorExtractor"
  | .toolchain => closed "Toolchain"
  | .writer => closed "BackgroundWriter"
  | .generator =>
    "TypingsGenerator \x7b pattern: ModulePattern, extractor: " ++ closed "SelectorExtractor" ++
      ", toolchain: " ++ closed "Toolchain" ++ " \x7d"

end Inspectable
end StyleTypings
