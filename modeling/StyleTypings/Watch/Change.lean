import StyleTypings.Disk.Lookup
import StyleTypings.Watch.Event

namespace StyleTypings.Watch

open Text (Bytes)
open Disk (Node Location)

inductive Change where
  /-- Something is moved in from outside, in the place of what is there. -/
  | put (path : Bytes) (node : Node)
  | append (path content : Bytes)
  | touch (path : Bytes)
  | link (path target : Bytes)
  | makeDir (path : Bytes)
  | protect (path : Bytes)
  | rename (path target : Bytes)
  | remove (path : Bytes)
deriving Repr, Inhabited

structure Watcher where
  dir : String
  home : Location
deriving Repr, Inhabited

/-- Where a path leads, without following a link in the last place. -/
def place? (d : Disk) (path : Bytes) : Option Location :=
  match d.lookup path false with
  | .ok (.found location _) => some location
  | .ok (.missing location _) => some location
  | .error _ => none

def target? (d : Disk) (path : Bytes) : Option (Location × Node) :=
  match d.lookup path true with
  | .ok (.found location n) => some (location, n)
  | _ => none

def below? : Location → Location → Option Location
  | [], there => some there
  | _ :: _, [] => none
  | a :: home, b :: there => if a == b then below? home there else none

/-- How events spell a location, if it is watched. -/
def Watcher.spelling? (w : Watcher) (location : Location) : Option Bytes :=
  match below? w.home location with
  | none => none
  | some [] => none
  | some names => some (names.foldl Disk.join (Text.encode w.dir))

def putAt (d : Disk) (location : Location) (n : Node) : Disk :=
  { d with top := d.top.put location n }

namespace Change

def place (w : Watcher) (d : Disk) (path : Bytes) (n : Node) : Disk × List Event :=
  match place? d path with
  | none => (d, [])
  | some location => (putAt d location n, ((w.spelling? location).map (⟨.create, [·]⟩)).toList)

def edit (w : Watcher) (d : Disk) (path : Bytes) (f : Bytes → Bool → Node) :
    Disk × List Event :=
  match target? d path with
  | some (location, .file content executable) =>
    let spelling :=
      if location == w.home then some (Text.encode w.dir) else w.spelling? location
    (putAt d location (f content executable), (spelling.map (⟨.modify, [·]⟩)).toList)
  | _ => (d, [])

def apply (w : Watcher) (d : Disk) : Change → Disk × List Event
  | .put path n => place w d path n
  | .append path more =>
    if more == [] then (d, [])
    else edit w d path fun content executable ↦ .file (content ++ more) executable
  | .touch path => place w d path (.file [] false)
  | .link path target => place w d path (.link target)
  | .makeDir path => place w d path (.dir [])
  | .protect path => edit w d path fun content _ ↦ .file content false
  | .rename path target =>
    match place? d path, place? d target with
    | some here, some there =>
      match d.top.at? here with
      | none => (d, [])
      | some n =>
        let top := (d.top.erase here).put there n
        let events := match w.spelling? here, w.spelling? there with
          | some a, some b => [⟨.modify, [a]⟩, ⟨.modify, [b]⟩, ⟨.modify, [a, b]⟩]
          | some a, none => [⟨.modify, [a]⟩]
          | none, some b => [⟨.modify, [b]⟩]
          | none, none => []
        ({ d with top }, events)
    | _, _ => (d, [])
  | .remove path =>
    match place? d path with
    | some location =>
      let events := ((w.spelling? location).map (⟨.remove, [·]⟩)).toList
      ({ d with top := d.top.erase location }, events)
    | none => (d, [])

end Change
end StyleTypings.Watch
