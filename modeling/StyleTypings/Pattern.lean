import StyleTypings.Pattern.Reader
import StyleTypings.Pattern.Lowering

namespace StyleTypings

structure Pattern where
  source : String
  matcher : Pattern.Matcher
deriving Repr, Inhabited

namespace Pattern

def compile (source : String) : Except Complaint Pattern := do
  let tree ← Reader.parse source
  let (sized, _) ← (Lowering.ast tree).run {}
  if sized.room > Sized.roomLimit then throw .tooBig
  return ⟨source, sized.matcher⟩

def isIn (p : Pattern) (text : String) : Bool := p.matcher.finds text

end Pattern
end StyleTypings
