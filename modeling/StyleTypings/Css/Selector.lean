namespace StyleTypings.Css

/-- What ties a compound to the one before it. The last three are not written: they stand in front
of a pseudo-element, of `::slotted()` and of `::part()`. -/
inductive Combinator where
  | descendant
  | child
  | nextSibling
  | laterSibling
  | pseudoElement
  | slotAssignment
  | part
deriving DecidableEq, Repr, Inhabited

inductive ListFunction where
  | not
  | is
  | where_
  | has
  | any
  | nthOf
deriving DecidableEq, Repr, Inhabited

inductive CompoundFunction where
  | slotted
  | host
deriving DecidableEq, Repr, Inhabited

mutual

inductive Simple where
  | cls (name : String)
  | id (name : String)
  | lists (fn : ListFunction) (arguments : List Selector)
  | compound (fn : CompoundFunction) (argument : Selector)
  /-- A type, an attribute, a nesting selector or a pseudo that holds no names. -/
  | other

inductive Selector where
  | first (compound : List Simple)
  | link (before : Selector) (combinator : Combinator) (compound : List Simple)

end

instance : Inhabited Simple := ⟨.other⟩
instance : Inhabited Selector := ⟨.first []⟩

mutual

def Simple.names : Simple → List String
  | .cls name => [name]
  | .id name => [name]
  | .lists _ arguments => Selector.namesOfList arguments
  | .compound _ argument => argument.names
  | .other => []

def Simple.namesOfList : List Simple → List String
  | [] => []
  | s :: rest => s.names ++ Simple.namesOfList rest

def Selector.names : Selector → List String
  | .first compound => Simple.namesOfList compound
  | .link before _ compound => before.names ++ Simple.namesOfList compound

def Selector.namesOfList : List Selector → List String
  | [] => []
  | s :: rest => s.names ++ Selector.namesOfList rest

end

inductive MatchItem where
  | cls (name : String)
  | id (name : String)
  | lists (fn : ListFunction) (arguments : List (List MatchItem))
  | compound (fn : CompoundFunction) (argument : List MatchItem)
  | combinator (c : Combinator)
  | other

mutual

def Simple.stored : Simple → MatchItem
  | .cls name => .cls name
  | .id name => .id name
  | .lists fn arguments => .lists fn (Selector.storedList arguments)
  | .compound fn argument => .compound fn argument.stored
  | .other => .other

def Simple.storedList : List Simple → List MatchItem
  | [] => []
  | s :: rest => s.stored :: Simple.storedList rest

/-- The matching order of a selector: its last compound comes first, and each compound is followed
by the combinator in front of it. -/
def Selector.stored : Selector → List MatchItem
  | .first compound => Simple.storedList compound
  | .link before c compound => Simple.storedList compound ++ .combinator c :: before.stored

def Selector.storedList : List Selector → List (List MatchItem)
  | [] => []
  | s :: rest => s.stored :: Selector.storedList rest

end

mutual

def MatchItem.names : MatchItem → List String
  | .cls name => [name]
  | .id name => [name]
  | .lists _ arguments => MatchItem.namesOfLists arguments
  | .compound _ argument => MatchItem.namesOfSelector argument [] []
  | .combinator _ => []
  | .other => []

/-- The names of a selector in matching order: the compounds are taken in reverse. The names read
since the last combinator are in `current`, those of the compounds before it in `later`. -/
def MatchItem.namesOfSelector :
    List MatchItem → (current : List String) → (later : List String) → List String
  | [], current, later => current ++ later
  | .combinator _ :: rest, current, later => MatchItem.namesOfSelector rest [] (current ++ later)
  | item :: rest, current, later =>
    MatchItem.namesOfSelector rest (current ++ item.names) later

def MatchItem.namesOfLists : List (List MatchItem) → List String
  | [] => []
  | s :: rest => MatchItem.namesOfSelector s [] [] ++ MatchItem.namesOfLists rest

end

def withFirstOccurrences (seen : List String) (names : List String) : List String :=
  names.foldl (fun seen name ↦ if seen.contains name then seen else seen ++ [name]) seen

def distinctNames (selectors : List (List MatchItem)) : List String :=
  withFirstOccurrences [] (MatchItem.namesOfLists selectors)

end StyleTypings.Css
