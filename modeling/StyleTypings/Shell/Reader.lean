import StyleTypings.Shell.Command

namespace StyleTypings.Shell

inductive Token where
  | word (line : Nat) (parts : Word)
  | newline
  | semicolon
  | both
  | either
  | pipe
  | output (errors : Bool)
  | copy (errors : Bool)
  | input
deriving DecidableEq, Repr, Inhabited

namespace Token

def endsWord (c : Char) : Bool := " \t\n;&|<>()".toList.contains c

def isNameChar (c : Char) : Bool := c.isAlphanum || c == '_'

/-- What follows a dollar sign; `none` if it stands for itself. -/
def parameter? : List Char → Option (Parameter × List Char)
  | '@' :: rest => some (.arguments, rest)
  | '*' :: rest => some (.arguments, rest)
  | '#' :: rest => some (.argumentCount, rest)
  | '?' :: rest => some (.status, rest)
  | '$' :: rest => some (.processId, rest)
  | '\x7b' :: rest =>
    match rest.span isNameChar with
    | (name, '\x7d' :: after) => some (braced name, after)
    | _ => none
  | c :: rest =>
    if c.isDigit then some (.argument (c.toNat - 48), rest)
    else if isNameChar c then
      let (name, after) := rest.span isNameChar
      some (.named (String.ofList (c :: name)), after)
    else none
  | [] => none
where
  braced (name : List Char) : Parameter :=
    match String.toNat? (String.ofList name) with
    | some n => .argument n
    | none => .named (String.ofList name)

def push (quoted : Bool) (c : Char) : Word → Word
  | .text t q :: parts =>
    if q == quoted then .text (t.push c) q :: parts
    else .text (String.singleton c) quoted :: .text t q :: parts
  | parts => .text (String.singleton c) quoted :: parts

/-- Reads the rest of a word; `done` holds its parts so far, last one first. -/
def takeWord : (fuel : Nat) → (inQuotes : Bool) → (done : Word) → List Char → Word × List Char
  | 0, _, done, cs => (done.reverse, cs)
  | _ + 1, _, done, [] => (done.reverse, [])
  | fuel + 1, true, done, '"' :: rest => takeWord fuel false done rest
  | fuel + 1, true, done, '\\' :: c :: rest =>
    if "\"\\$`".toList.contains c then takeWord fuel true (push true c done) rest
    else takeWord fuel true (push true '\\' done) (c :: rest)
  | fuel + 1, false, done, '"' :: rest => takeWord fuel true (.text "" true :: done) rest
  | fuel + 1, false, done, '\'' :: rest =>
    let (quotedText, after) := rest.span (· != '\'')
    takeWord fuel false (.text (String.ofList quotedText) true :: done) (after.drop 1)
  | fuel + 1, false, done, '\\' :: c :: rest => takeWord fuel false (push true c done) rest
  | fuel + 1, quoted, done, '$' :: rest =>
    match parameter? rest with
    | some (p, after) => takeWord fuel quoted (.parameter p quoted :: done) after
    | none => takeWord fuel quoted (push quoted '$' done) rest
  | fuel + 1, true, done, c :: rest => takeWord fuel true (push true c done) rest
  | fuel + 1, false, done, c :: rest =>
    if endsWord c then (done.reverse, c :: rest) else takeWord fuel false (push false c done) rest

def scan : (fuel : Nat) → (line : Nat) → List Char → List Token
  | 0, _, _ => []
  | _ + 1, _, [] => []
  | fuel + 1, line, '\n' :: rest => newline :: scan fuel (line + 1) rest
  | fuel + 1, line, ' ' :: rest => scan fuel line rest
  | fuel + 1, line, '\t' :: rest => scan fuel line rest
  | fuel + 1, line, '#' :: rest => scan fuel line (rest.dropWhile (· != '\n'))
  | fuel + 1, line, '\\' :: '\n' :: rest => scan fuel (line + 1) rest
  | fuel + 1, line, ';' :: rest => semicolon :: scan fuel line rest
  | fuel + 1, line, '&' :: '&' :: rest => both :: scan fuel line rest
  | fuel + 1, line, '|' :: '|' :: rest => either :: scan fuel line rest
  | fuel + 1, line, '|' :: rest => pipe :: scan fuel line rest
  | fuel + 1, line, '2' :: '>' :: '&' :: rest => copy true :: scan fuel line rest
  | fuel + 1, line, '2' :: '>' :: rest => output true :: scan fuel line (rest.dropWhile (· == '>'))
  | fuel + 1, line, '1' :: '>' :: '&' :: rest => copy false :: scan fuel line rest
  | fuel + 1, line, '>' :: '&' :: rest => copy false :: scan fuel line rest
  | fuel + 1, line, '>' :: rest => output false :: scan fuel line (rest.dropWhile (· == '>'))
  | fuel + 1, line, '<' :: rest => input :: scan fuel line rest
  | fuel + 1, line, c :: rest =>
    if endsWord c then scan fuel line rest
    else
      let (parts, after) := takeWord (rest.length + 2) false [] (c :: rest)
      let taken := (c :: rest).take (rest.length + 1 - after.length)
      word line parts :: scan fuel (line + taken.count '\n') after

end Token

def plain? : Word → Option String
  | [.text t false] => some t
  | _ => none

def Token.plain? : Token → Option String
  | .word _ parts => Shell.plain? parts
  | _ => none

def takeWords : List Token → List Word × List Token
  | .word _ parts :: rest =>
    let (words, after) := takeWords rest
    (parts :: words, after)
  | tokens => ([], tokens)

def takeSimple : List Token → List Word × List Redirection × List Token
  | .word _ parts :: rest =>
    let (words, redirections, after) := takeSimple rest
    (parts :: words, redirections, after)
  | .output errors :: .word _ _ :: rest =>
    let (words, redirections, after) := takeSimple rest
    (words, .drop errors :: redirections, after)
  | .copy errors :: .word _ target :: rest =>
    let (words, redirections, after) := takeSimple rest
    (words, .copy errors (plain? target == some "2") :: redirections, after)
  | .input :: .word _ file :: rest =>
    let (words, redirections, after) := takeSimple rest
    (words, .input file :: redirections, after)
  | tokens => ([], [], tokens)

def Token.separates : Token → Bool
  | .newline => true
  | .semicolon => true
  | _ => false

mutual

def takeCommand : (fuel : Nat) → List Token → Option (Command × List Token)
  | 0, _ => none
  | _ + 1, [] => none
  | fuel + 1, t :: rest =>
    if t.plain? == some "for" then
      match rest with
      | .word _ [.text name false] :: .word _ [.text "in" false] :: after =>
        let (words, after) := takeWords after
        match after.dropWhile Token.separates with
        | .word _ [.text "do" false] :: after =>
          let (body, after) := takeCommands fuel after
          some (.forEach name words body, after.drop 1)
        | _ => none
      | _ => none
    else
      let line := match t with
        | .word line _ => line
        | _ => 0
      let (words, redirections, after) := takeSimple (t :: rest)
      if words.isEmpty && redirections.isEmpty then none
      else some (.simple line words redirections, after)

def takeJoined : (fuel : Nat) → (first : Command) → List Token → Command × List Token
  | 0, first, tokens => (first, tokens)
  | fuel + 1, first, .pipe :: rest =>
    match takeCommand fuel (rest.dropWhile (· == .newline)) with
    | some (second, after) =>
      match first with
      | .both a b => takeJoined fuel (.both a (.pipe b second)) after
      | .either a b => takeJoined fuel (.either a (.pipe b second)) after
      | _ => takeJoined fuel (.pipe first second) after
    | none => (first, rest)
  | fuel + 1, first, .both :: rest =>
    match takeCommand fuel (rest.dropWhile (· == .newline)) with
    | some (second, after) => takeJoined fuel (.both first second) after
    | none => (first, rest)
  | fuel + 1, first, .either :: rest =>
    match takeCommand fuel (rest.dropWhile (· == .newline)) with
    | some (second, after) => takeJoined fuel (.either first second) after
    | none => (first, rest)
  | _ + 1, first, tokens => (first, tokens)

def takeCommands : (fuel : Nat) → List Token → List Command × List Token
  | 0, tokens => ([], tokens)
  | fuel + 1, tokens =>
    let tokens := tokens.dropWhile Token.separates
    match tokens with
    | [] => ([], [])
    | t :: _ =>
      if t.plain? == some "done" then ([], tokens)
      else
        match takeCommand fuel tokens with
        | none => ([], tokens)
        | some (first, after) =>
          let (command, after) := takeJoined fuel first after
          let (later, after) := takeCommands fuel after
          (command :: later, after)

end

def read (line : Nat) (script : String) : List Command :=
  let tokens := Token.scan (script.length + 1) line script.toList
  (takeCommands (2 * tokens.length + 2) tokens).1

end StyleTypings.Shell
