namespace StyleTypings.Path

inductive Component where
  /-- The slash that an absolute path begins with. -/
  | root
  /-- The dot that a relative path begins with. -/
  | current
  | parent
  | name (text : List Char)
deriving DecidableEq, Repr

def Component.chars : Component → List Char
  | .root => ['/']
  | .current => ['.']
  | .parent => ['.', '.']
  | .name text => text

def pieces : List Char → List (List Char)
  | [] => [[]]
  | c :: rest =>
    if c == '/' then [] :: pieces rest
    else
      match pieces rest with
      | [] => [[c]]
      | p :: ps => (c :: p) :: ps

def component? (piece : List Char) : Option Component :=
  if piece == [] || piece == ['.'] then none
  else if piece == ['.', '.'] then some .parent
  else some (.name piece)

def head (path : List Char) : Option Component :=
  match path with
  | '/' :: _ => some .root
  | '.' :: '/' :: _ => some .current
  | ['.'] => some .current
  | _ => none

def body (path : List Char) : List Char :=
  path.drop (head path).toList.length

def componentsOf (path : List Char) : List Component :=
  (head path).toList ++ (pieces (body path)).filterMap component?

/-- Repeated slashes and single dots between names mean nothing. Double dots stay: what they mean
depends on links. -/
def components (path : String) : List Component := componentsOf path.toList

def same (a b : String) : Bool := components a == components b

def startsWith (path base : String) : Bool := (components base).isPrefixOf (components path)

def isAbsolute (path : String) : Bool := path.toList.head? == some '/'

/-- The text up to the end of each name of a path, shortest first; `done` is what lies before the
pieces. Names count, other pieces do not. -/
def prefixesFrom (done : List Char) : List (List Char) → List (List Char)
  | [] => []
  | p :: ps =>
    let here := done ++ p
    let later := prefixesFrom (here ++ ['/']) ps
    if (component? p).isSome then here :: later else later

/-- The paths that lead to a path, shortest first, without the path itself in its own spelling. -/
def prefixesOf (path : List Char) : List (List Char) :=
  let start := (head path).toList.flatMap Component.chars
  let beginning := match head path with
    | some .root => [['/']]
    | some .current => [[], ['.']]
    | _ => [[]]
  beginning ++ prefixesFrom start (pieces (body path))

def ancestors (path : String) : List String :=
  (((prefixesOf path.toList).reverse).drop 1).map String.ofList

def parent? (path : String) : Option String := (ancestors path).head?

/-- Whatever follows the last dot of a name, unless that dot comes first or there is none. -/
def extensionOf (name : List Char) : Option (List Char) :=
  let (reversed, rest) := name.reverse.span (· != '.')
  match rest with
  | _ :: _ :: _ => some reversed.reverse
  | _ => none

def extension? (path : String) : Option String :=
  match (components path).getLast? with
  | some (.name text) => (extensionOf text).map String.ofList
  | _ => none

def join (base path : String) : String :=
  if isAbsolute path then path
  else if base.toList.getLast?.all (· == '/') then base ++ path
  else base ++ "/" ++ path

def ofComponents : List Component → List Char
  | [] => []
  | [c] => c.chars
  | .root :: rest => '/' :: ofComponents rest
  | c :: rest => c.chars ++ '/' :: ofComponents rest

def resolve (base path : String) : String :=
  String.ofList (ofComponents (components (join base path)))

end StyleTypings.Path
