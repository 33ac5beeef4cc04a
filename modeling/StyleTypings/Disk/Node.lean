import StyleTypings.Text.Utf8

namespace StyleTypings.Disk

open Text (Bytes)

abbrev Name := Bytes

/-- The names that lead from the top of a tree to a node. -/
abbrev Location := List Name

inductive Node where
  | file (content : Bytes) (executable : Bool)
  | link (target : Bytes)
  | dir (entries : List (Name × Node))
deriving Repr, Inhabited

inductive Kind where
  | file
  | link
  | dir
deriving DecidableEq, Repr, Inhabited

namespace Node

def kind : Node → Kind
  | .file _ _ => .file
  | .link _ => .link
  | .dir _ => .dir

def isDir (n : Node) : Bool := n.kind == .dir

def entries : Node → List (Name × Node)
  | .dir es => es
  | _ => []

def at? : Node → Location → Option Node
  | n, [] => some n
  | n, name :: rest =>
    match n.entries.lookup name with
    | some child => child.at? rest
    | none => none

def withEntry (name : Name) (n : Node) : List (Name × Node) → List (Name × Node)
  | [] => [(name, n)]
  | e :: es => if e.1 == name then (name, n) :: es else e :: withEntry name n es

def alter (f : List (Name × Node) → List (Name × Node)) : Location → Node → Node
  | [], .dir es => .dir (f es)
  | name :: rest, .dir es =>
    match es.lookup name with
    | some child => .dir (withEntry name (child.alter f rest) es)
    | none => .dir es
  | _, n => n

/-- Puts a node at a location; its directory must be there. -/
def put (n : Node) (location : Location) (new : Node) : Node :=
  match location.getLast? with
  | none => new
  | some name => n.alter (withEntry name new) location.dropLast

def erase (n : Node) (location : Location) : Node :=
  match location.getLast? with
  | none => n
  | some name => n.alter (·.filter (·.1 != name)) location.dropLast

mutual

def size : Node → Nat
  | .file _ _ => 1
  | .link _ => 1
  | .dir es => 1 + sizeOfEntries es

def sizeOfEntries : List (Name × Node) → Nat
  | [] => 0
  | (_, n) :: es => n.size + sizeOfEntries es

end

mutual

def files (above : Location) : Node → List (Location × Bytes)
  | .file content _ => [(above, content)]
  | .link _ => []
  | .dir es => filesOfEntries above es

def filesOfEntries (above : Location) : List (Name × Node) → List (Location × Bytes)
  | [] => []
  | (name, n) :: es => n.files (above ++ [name]) ++ filesOfEntries above es

end

@[simp] theorem at?_nil (n : Node) : n.at? [] = some n := by
  cases n <;> rfl

theorem lookup_withEntry (name : Name) (n : Node) (es : List (Name × Node)) :
    (withEntry name n es).lookup name = some n := by
  induction es with
  | nil => simp [withEntry]
  | cons e es ih =>
    obtain ⟨other, m⟩ := e
    by_cases h : other = name
    · simp [withEntry, h]
    · have hb : (name == other) = false := beq_eq_false_iff_ne.2 fun he ↦ h he.symm
      simp [withEntry, h, List.lookup_cons, hb, ih]

end Node
end StyleTypings.Disk
