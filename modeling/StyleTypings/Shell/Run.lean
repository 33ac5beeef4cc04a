import StyleTypings.Disk.Lookup
import StyleTypings.Text.Blank
import StyleTypings.Shell.Reader

namespace StyleTypings.Shell

open Text (Bytes)

inductive Ending where
  | code (n : Nat)
  | signal (n : Nat)
deriving DecidableEq, Repr, Inhabited

structure State where
  name : Bytes
  arguments : List Bytes
  disk : Disk
  input : Bytes
  output : Bytes := []
  errors : Bytes := []
  bindings : List (String × Bytes) := []
  status : Nat := 0
  ended : Option Ending := none
deriving Repr, Inhabited

structure Effect where
  output : Bytes := []
  errors : Bytes := []
  status : Nat := 0
  rest : Bytes
  ended : Option Ending := none
deriving Repr, Inhabited

def processId : String := "1"

def State.value (s : State) : Parameter → Bytes
  | .named name => (s.bindings.lookup name).getD []
  | .argument 0 => s.name
  | .argument (n + 1) => s.arguments[n]?.getD []
  | .arguments => (s.arguments.intersperse [32]).flatten
  | .argumentCount => Text.encode (toString s.arguments.length)
  | .status => Text.encode (toString s.status)
  | .processId => Text.encode processId

def divides (b : UInt8) : Bool := b == 32 || b == 9 || b == 10

def divided : Bytes → List Bytes
  | [] => [[]]
  | b :: rest =>
    if divides b then [] :: divided rest
    else
      match divided rest with
      | [] => [[b]]
      | p :: ps => (b :: p) :: ps

/-- Words that are put together: finished ones, last one first, and the one in progress. -/
structure Assembly where
  finished : List Bytes := []
  current : Option Bytes := none

def Assembly.append (a : Assembly) (b : Bytes) : Assembly :=
  { a with current := some (a.current.getD [] ++ b) }

def Assembly.next (a : Assembly) : Assembly :=
  match a.current with
  | none => a
  | some w => ⟨w :: a.finished, none⟩

def Assembly.pieces (a : Assembly) : List Bytes → Assembly
  | [] => a
  | [p] => a.append p
  | p :: ps => ((a.append p).next).pieces ps

/-- Puts pieces behind each other; empty ones only end words. -/
def Assembly.fields (a : Assembly) : List Bytes → Assembly
  | [] => a
  | [p] => if p == [] then a else a.append p
  | p :: ps => ((if p == [] then a else a.append p).next).fields ps

def State.expand (s : State) (w : Word) : List Bytes :=
  let all := w.foldl (fun (a : Assembly) part ↦
    match part with
    | .text t quoted => if t.isEmpty && !quoted then a else a.append (Text.encode t)
    | .parameter .arguments true => a.pieces s.arguments
    | .parameter p true => a.append (s.value p)
    | .parameter p false => a.fields (divided (s.value p))) {}
  all.next.finished.reverse

def takeOctal (most : Nat) (bytes : Bytes) : Nat × Bytes :=
  let digits := (bytes.take most).takeWhile fun b ↦ 48 ≤ b && b ≤ 55
  (digits.foldl (fun n b ↦ n * 8 + (b.toNat - 48)) 0, bytes.drop digits.length)

def letterEscape? (b : UInt8) : Option UInt8 :=
  if b == 97 then some 7
  else if b == 98 then some 8
  else if b == 102 then some 12
  else if b == 110 then some 10
  else if b == 114 then some 13
  else if b == 116 then some 9
  else if b == 118 then some 11
  else if b == 92 then some 92
  else none

/-- Bytes with their escapes replaced; octal digits may need a zero in front. The second part of
the answer says whether `\c` cut the bytes off. -/
def unescape (zeroInFront : Bool) : (fuel : Nat) → Bytes → Bytes × Bool
  | 0, _ => ([], false)
  | _ + 1, [] => ([], false)
  | fuel + 1, 92 :: b :: rest =>
    if b == 99 then ([], true)
    else
      match letterEscape? b with
      | some e =>
        let (later, cut) := unescape zeroInFront fuel rest
        (e :: later, cut)
      | none =>
        let octal := if zeroInFront then b == 48 else 48 ≤ b && b ≤ 55
        if octal then
          let (n, after) := takeOctal 3 (if zeroInFront then rest else b :: rest)
          let (later, cut) := unescape zeroInFront fuel after
          (n.toUInt8 :: later, cut)
        else
          let (later, cut) := unescape zeroInFront fuel rest
          (92 :: b :: later, cut)
  | fuel + 1, b :: rest =>
    let (later, cut) := unescape zeroInFront fuel rest
    (b :: later, cut)

def echo (words : List Bytes) : Bytes :=
  let (quiet, words) := match words with
    | [45, 110] :: rest => (true, rest)
    | _ => (false, words)
  let text := (words.intersperse [32]).flatten
  let (shown, cut) := unescape true (text.length + 1) text
  if quiet || cut then shown else shown ++ [10]

/-- One pass over the format of `printf`; the answer holds the words that are left. -/
def formatOnce : (fuel : Nat) → (words : List Bytes) → Bytes → Bytes × List Bytes
  | 0, words, _ => ([], words)
  | _ + 1, words, [] => ([], words)
  | fuel + 1, words, 37 :: 37 :: rest =>
    let (later, left) := formatOnce fuel words rest
    (37 :: later, left)
  | fuel + 1, words, 37 :: kind :: rest =>
    let word := words.headD (if kind == 100 then [48] else [])
    let shown := if kind == 98 then (unescape true (word.length + 1) word).1 else word
    let (later, left) := formatOnce fuel words.tail rest
    (shown ++ later, left)
  | fuel + 1, words, 92 :: b :: rest =>
    match letterEscape? b with
    | some e =>
      let (later, left) := formatOnce fuel words rest
      (e :: later, left)
    | none =>
      if 48 ≤ b && b ≤ 55 then
        let (n, after) := takeOctal 3 (b :: rest)
        let (later, left) := formatOnce fuel words after
        (n.toUInt8 :: later, left)
      else
        let (later, left) := formatOnce fuel words rest
        (92 :: b :: later, left)
  | fuel + 1, words, b :: rest =>
    let (later, left) := formatOnce fuel words rest
    (b :: later, left)

/-- What `printf` prints: the format is used again while words are left. -/
def printf (format : Bytes) : (fuel : Nat) → List Bytes → Bytes
  | 0, _ => []
  | fuel + 1, words =>
    let (shown, left) := formatOnce (format.length + 1) words format
    if left.isEmpty || left.length == words.length then shown else shown ++ printf format fuel left

def byteSet : (fuel : Nat) → Bytes → Bytes
  | 0, _ => []
  | _ + 1, [] => []
  | fuel + 1, 92 :: b :: rest =>
    match letterEscape? b with
    | some e => e :: byteSet fuel rest
    | none =>
      if 48 ≤ b && b ≤ 55 then
        let (n, after) := takeOctal 3 (b :: rest)
        n.toUInt8 :: byteSet fuel after
      else b :: byteSet fuel rest
  | fuel + 1, low :: 45 :: high :: rest =>
    (List.range (high.toNat + 1 - low.toNat)).map (fun i ↦ (low.toNat + i).toUInt8) ++
      byteSet fuel rest
  | fuel + 1, b :: rest => b :: byteSet fuel rest

def byteSetOf (word : Bytes) : Bytes :=
  let range :=
    if word == Text.encode "[:upper:]" then Text.encode "A-Z"
    else if word == Text.encode "[:lower:]" then Text.encode "a-z"
    else if word == Text.encode "[:digit:]" then Text.encode "0-9"
    else if word == Text.encode "[:space:]" then Text.encode "\\t-\\r "
    else word
  byteSet (range.length + 1) range

def translated (source target : Bytes) (b : UInt8) : UInt8 :=
  match source.idxOf? b with
  | some i => target[i]?.getD (target.getLast?.getD b)
  | none => b

def number? (word : Bytes) : Option Nat := (Text.decode? word).bind (·.toNat?)

def signal? (word : Bytes) : Option Nat :=
  match Text.decode? word with
  | some "-TERM" => some 15
  | some "-KILL" => some 9
  | some "-INT" => some 2
  | some "-HUP" => some 1
  | some "-SEGV" => some 11
  | some "-ABRT" => some 6
  | _ => number? (word.drop 1)

/-- The contents of files behind each other; a dash means the input. -/
def concatenated (d : Disk) (input : Bytes) : List Bytes → Effect → Effect
  | [], e => e
  | [45] :: rest, e => concatenated d [] rest { e with output := e.output ++ input, rest := [] }
  | file :: rest, e =>
    match d.read file with
    | .ok content => concatenated d input rest { e with output := e.output ++ content }
    | .error fault =>
      let sentence := String.ofList (fault.message.toList.takeWhile (· != '('))
      let line := Text.encode "cat: " ++ file ++
        Text.encode (": " ++ Text.trimEnd sentence ++ "\n")
      concatenated d input rest { e with errors := e.errors ++ line, status := 1 }

def builtin (s : State) (line : Nat) (name : Bytes) (words : List Bytes) : Effect :=
  let quiet : Effect := ⟨[], [], 0, s.input, none⟩
  match Text.decode? name with
  | some "cat" =>
    if words.isEmpty then { quiet with output := s.input, rest := [] }
    else concatenated s.disk s.input words quiet
  | some "echo" => { quiet with output := echo words }
  | some "printf" =>
    match words with
    | [] => { quiet with status := 2 }
    | format :: arguments => { quiet with output := printf format (arguments.length + 1) arguments }
  | some "tr" =>
    match words with
    | [[45, 100], set] =>
      { quiet with output := s.input.filter (!(byteSetOf set).contains ·), rest := [] }
    | [source, target] =>
      let change := translated (byteSetOf source) (byteSetOf target)
      { quiet with output := s.input.map change, rest := [] }
    | _ => { quiet with status := 1 }
  | some "exit" =>
    let n := ((words.head?).bind number?).getD s.status
    { quiet with ended := some (.code (n % 256)) }
  | some "kill" =>
    match words with
    | [how, target] =>
      if target == Text.encode processId then
        { quiet with ended := (signal? how).map .signal }
      else { quiet with status := 1 }
    | [target] =>
      if target == Text.encode processId then { quiet with ended := some (.signal 15) }
      else { quiet with status := 1 }
    | _ => { quiet with status := 2 }
  | some "true" => quiet
  | some ":" => quiet
  | some "sleep" => quiet
  | some "false" => { quiet with status := 1 }
  | some "pwd" =>
    match s.disk.workingDirectory with
    | .ok path => { quiet with output := path ++ [10] }
    | .error _ => { quiet with status := 1 }
  | _ =>
    let where_ := s.name ++ Text.encode (": " ++ toString line ++ ": ")
    { quiet with errors := where_ ++ name ++ Text.encode ": not found\n", status := 127 }

structure Routing where
  output : Outlet := .output
  errors : Outlet := .errors

def Routing.redirect (r : Routing) : Redirection → Routing
  | .copy true fromErrors => { r with errors := if fromErrors then r.errors else r.output }
  | .copy false fromErrors => { r with output := if fromErrors then r.errors else r.output }
  | .drop true => { r with errors := .nowhere }
  | .drop false => { r with output := .nowhere }
  | .input _ => r

def State.put (s : State) (bytes : Bytes) : Outlet → State
  | .output => { s with output := s.output ++ bytes }
  | .errors => { s with errors := s.errors ++ bytes }
  | .nowhere => s

def State.inputFor (s : State) (redirections : List Redirection) : Option Bytes :=
  redirections.findSome? fun
    | .input file => (s.disk.read (s.expand file).flatten).toOption
    | _ => none

def assignment? (w : Word) : Option (String × Word) :=
  match w with
  | .text t false :: parts =>
    match t.toList.span (· != '=') with
    | (name, _ :: value) =>
      if !name.isEmpty && name.all Token.isNameChar then
        some (String.ofList name, .text (String.ofList value) true :: parts)
      else none
    | _ => none
  | _ => none

def State.simple (s : State) (line : Nat) (words : List Word) (redirections : List Redirection) :
    State :=
  match words with
  | [w] =>
    match assignment? w with
    | some (name, value) =>
      { s with bindings := (name, (s.expand value).flatten) :: s.bindings, status := 0 }
    | none => ordinary
  | _ => ordinary
where
  ordinary : State :=
    match words.flatMap s.expand with
    | [] => s
    | name :: arguments =>
      let routing := redirections.foldl Routing.redirect {}
      let own := s.inputFor redirections
      let effect := builtin { s with input := own.getD s.input } line name arguments
      let s := (s.put effect.output routing.output).put effect.errors routing.errors
      { s with
        input := if own.isSome then s.input else effect.rest
        status := effect.status
        ended := effect.ended }

mutual

def Command.run (s : State) : Command → State
  | .simple line words redirections =>
    if s.ended.isSome then s else s.simple line words redirections
  | .forEach name words body =>
    (words.flatMap s.expand).foldl (fun s value ↦
      runAll { s with bindings := (name, value) :: s.bindings } body) s
  | .pipe first second =>
    if s.ended.isSome then s
    else
      let before := first.run { s with output := [] }
      let after := second.run { s with input := before.output, errors := before.errors }
      let killed (e : Option Ending) : Option Ending :=
        match e with
        | some (.signal n) => some (.signal n)
        | _ => none
      let status := match after.ended with
        | some (.code n) => n
        | _ => after.status
      { s with
        input := before.input
        output := after.output
        errors := after.errors
        status
        ended := (killed before.ended).or (killed after.ended) }
  | .both first second =>
    let s := first.run s
    if s.status == 0 then second.run s else s
  | .either first second =>
    let s := first.run s
    if s.status == 0 then s else second.run s

def runAll (s : State) : List Command → State
  | [] => s
  | c :: rest => runAll (c.run s) rest

end

structure Finished where
  ending : Ending
  output : Bytes
  errors : Bytes
deriving DecidableEq, Repr, Inhabited

def run (disk : Disk) (name : Bytes) (arguments : List Bytes) (input : Bytes) (line : Nat)
    (script : String) : Finished :=
  let s := runAll ⟨name, arguments, disk, input, [], [], [], 0, none⟩ (read line script)
  ⟨s.ended.getD (.code s.status), s.output, s.errors⟩

end StyleTypings.Shell
