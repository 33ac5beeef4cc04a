import StyleTypings.Pattern.CharSet

namespace StyleTypings.Pattern

inductive Look where
  | start
  | stop
  | startLine
  | endLine
  | startLineCrlf
  | endLineCrlf
  | wordBoundary (unicode : Bool)
  | notWordBoundary (unicode : Bool)
  | wordStart (unicode : Bool)
  | wordEnd (unicode : Bool)
  | wordStartHalf (unicode : Bool)
  | wordEndHalf (unicode : Bool)
deriving DecidableEq, Repr, Inhabited

inductive Matcher where
  | empty
  | class (set : CharSet)
  | look (l : Look)
  | concat (first second : Matcher)
  | either (first second : Matcher)
  /-- From `least` to `most` times, or without an upper bound. -/
  | repetition (body : Matcher) (least : Nat) (most : Option Nat)
deriving Repr, Inhabited

structure Neighbours where
  before : Option Char
  after : Option Char
deriving DecidableEq, Repr, Inhabited

/-- The neighbours of every place of a text; `before` stands in front of it. -/
def neighbours (before : Option Char) : List Char → List Neighbours
  | [] => [⟨before, none⟩]
  | c :: rest => ⟨before, some c⟩ :: neighbours (some c) rest

def isAsciiWord (c : Char) : Bool := c.isAlphanum || c == '_'

def Look.holds (l : Look) (n : Neighbours) : Bool :=
  let word (unicode : Bool) (c : Option Char) : Bool :=
    c.any fun c ↦ if unicode then CharSet.isWord c else isAsciiWord c
  match l with
  | .start => n.before.isNone
  | .stop => n.after.isNone
  | .startLine => n.before.all (· == '\n')
  | .endLine => n.after.all (· == '\n')
  | .startLineCrlf =>
    n.before.all (· == '\n') || (n.before == some '\r' && n.after != some '\n')
  | .endLineCrlf =>
    n.after.all (· == '\r') || (n.after == some '\n' && n.before != some '\r')
  | .wordBoundary u => word u n.before != word u n.after
  | .notWordBoundary u => word u n.before == word u n.after
  | .wordStart u => !word u n.before && word u n.after
  | .wordEnd u => word u n.before && !word u n.after
  | .wordStartHalf u => !word u n.before
  | .wordEndHalf u => !word u n.after

abbrev Places := List Bool

def behind (set : CharSet) (text : List Char) (places : Places) : Places :=
  false :: List.zipWith (fun c here ↦ here && set.contains c) text places

def Places.union (a b : Places) : Places := List.zipWith (· || ·) a b

/-- Applies `f` so many times, but stops where it changes nothing or nothing is left. -/
def iterate (f : Places → Places) : Nat → Places → Places
  | 0, places => places
  | n + 1, places =>
    if places.any id then
      let next := f places
      if next == places then places else iterate f n next
    else places

/-- Takes the places of a text where a match may begin to those where it may end. -/
def Matcher.run (text : List Char) : Matcher → Places → Places
  | .empty, places => places
  | .class set, places => behind set text places
  | .look l, places =>
    List.zipWith (fun n here ↦ here && l.holds n) (neighbours none text) places
  | .concat first second, places => second.run text (first.run text places)
  | .either first second, places => (first.run text places).union (second.run text places)
  | .repetition body least most, places =>
    let rounds := match most with
      | some n => n - least
      | none => text.length + 1
    iterate (fun p ↦ p.union (body.run text p)) rounds (iterate (body.run text) least places)

def Matcher.finds (m : Matcher) (text : String) : Bool :=
  let chars := text.toList
  (m.run chars (List.replicate (chars.length + 1) true)).any id

end StyleTypings.Pattern
