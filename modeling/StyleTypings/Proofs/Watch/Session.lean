import StyleTypings.Proofs.Walk.Course
import StyleTypings.Proofs.Walk.Ground
import StyleTypings.Proofs.World.Promise
import StyleTypings.Watch

namespace StyleTypings.Watch

open Disk (Location Node)
open Text (Bytes encode)
open Walk (Chosen Progress Task pathBelow stylesheet?)

inductive Phase where
  | walking (p : Progress)
  | watching
  /-- It has ended, since it could not print. -/
  | stopped

/-- A run that walks and then watches. Nothing is known of the watcher but that an event names every
stylesheet that was edited while it was there, at some time after the edit. -/
structure Session where
  world : World
  phase : Phase
  visited : List Bytes := []
  /-- Stylesheets that were edited and that an event has yet to name. -/
  awaited : String → Prop := fun _ ↦ False
  /-- Stylesheets whose files were changed too early for the watcher, or through other paths. -/
  missed : String → Prop := fun _ ↦ False

def visitedBy : Task → List Bytes
  | .visit _ .dir => []
  | .visit path _ => [path]
  | .enter _ => []

def Present (root : Bytes) (n : Node) (text : String) : Prop := ∃ l, Chosen none root n l text

def Shares (d : Disk) (a b : String) : Prop := d.spot? (encode a) = d.spot? (encode b)

/-- The paths of an event: where they name module stylesheets, these are entries below the root. -/
def Heard (root : Bytes) (n : Node) (paths : List Bytes) : Prop :=
  ∀ path ∈ paths, ∀ text, stylesheet? path = some text →
    ∃ l, path = pathBelow root l ∧ n.at? l ≠ none

variable (t : Toolchain) (e : Exclusion) (root : String) (n : Node)

/-- What can happen next. Between any two steps of the program the writer gets as far as a schedule
says. -/
inductive Step : Session → Session → Prop
  | walk {s : Session} {task : Task} {later : List Task} {summary : Summary} {p : Progress}
      {w : World} (schedule : List Nat) (hphase : s.phase = .walking ⟨task :: later, summary⟩)
      (h : (Walk.step t e ⟨task :: later, summary⟩).run { s.world with schedule } = (.ok p, w)) :
      Step s { s with world := w, phase := .walking p, visited := visitedBy task ++ s.visited }
  | register {s : Session} {summary : Summary} (hphase : s.phase = .walking ⟨[], summary⟩) :
      Step s { s with phase := .watching }
  | work {s : Session} : Step s { s with world := (World.work.run s.world).2 }
  | deliver {s : Session} {paths : List Bytes} {w : World} (schedule : List Nat)
      (hphase : s.phase = .watching) (hheard : Heard (encode root) n paths)
      (h : (react t e root paths).run { s.world with schedule } = (.ok (), w)) :
      Step s { s with
        world := w
        awaited := fun text ↦ s.awaited text ∧ encode text ∉ paths
        missed := fun text ↦ s.missed text ∧ encode text ∉ paths }
  | stop {s : Session} {paths : List Bytes} {fault : Disk.Fault} {w : World} (schedule : List Nat)
      (hphase : s.phase = .watching) (hheard : Heard (encode root) n paths)
      (h : (react t e root paths).run { s.world with schedule } = (.error fault, w)) :
      Step s { s with world := w, phase := .stopped }
  | editEarly {s : Session} {p : Progress} {edited : String} {content : Bytes} {disk : Disk}
      (hphase : s.phase = .walking p) (hpresent : Present (encode root) n edited)
      (hfile : (s.world.disk.fileAt? (encode edited)).isSome)
      (h : s.world.disk.write (encode edited) content = .ok disk) :
      Step s { s with
        world := { s.world with disk }
        missed := fun text ↦ s.missed text ∨
          Shares s.world.disk text edited ∧ encode text ∈ s.visited }
  | editLate {s : Session} {edited : String} {content : Bytes} {disk : Disk}
      (hphase : s.phase = .watching) (hpresent : Present (encode root) n edited)
      (hfile : (s.world.disk.fileAt? (encode edited)).isSome)
      (h : s.world.disk.write (encode edited) content = .ok disk) :
      Step s { s with
        world := { s.world with disk }
        awaited := fun text ↦ s.awaited text ∨ text = edited
        missed := fun text ↦ text ≠ edited ∧
          (s.missed text ∨ Shares s.world.disk text edited) }

inductive Reachable (first : Session) : Session → Prop
  | start : Reachable first first
  | next {s s' : Session} (h : Reachable first s) (step : Step t e root n s s') : Reachable first s'

def Session.begin (w : World) (tasks : List Task) : Session :=
  { world := w, phase := .walking ⟨tasks, {}⟩ }

theorem exists_reachable_of_returns {t : Toolchain} {e : Exclusion} {root : String} {n : Node}
    {first : Session} {fuel : Nat} {p : Progress} {w last : World} {answer : Summary}
    {visited : List Bytes} {awaited missed : String → Prop}
    (h : Reachable t e root n first ⟨w, .walking p, visited, awaited, missed⟩)
    (hreturns : Walk.Returns t e fuel p w answer last) :
    ∃ tasks visited', Reachable t e root n first
      ⟨last, .walking ⟨tasks, answer⟩, visited', awaited, missed⟩ := by
  induction fuel generalizing p w visited with
  | zero =>
    cases hreturns
    exact ⟨_, _, h⟩
  | succ fuel ih =>
    obtain ⟨tasks, summary⟩ := p
    cases tasks with
    | nil =>
      obtain ⟨rfl, rfl⟩ := hreturns.done
      exact ⟨_, _, h⟩
    | cons task later =>
      obtain ⟨p, w', hstep, hreturns⟩ := hreturns.step
      exact ih (h.next (.walk w.schedule rfl hstep)) hreturns

structure Setting (d : Disk) (e : Exclusion) (root : Bytes) (top : Location) (n : Node) : Prop
    extends Walk.Ground d root top n where
  directory : n.kind = .dir
  writable (l : Location) (text : String) : Chosen e root n l text →
    (d.spot? (encode (Module.typingsPath text))).isSome
  not_dangling (l : Location) (text : String) : Chosen e root n l text →
    ¬Disk.Dangling d (encode (Module.typingsPath text))

structure Apart (d : Disk) (e : Exclusion) (root : Bytes) (n : Node) (text : String) : Prop where
  file (l : Location) (other : String) : Chosen e root n l other →
    ¬Shares d (Module.typingsPath other) text
  typings (l : Location) (other : String) : Chosen e root n l other →
    Shares d (Module.typingsPath other) (Module.typingsPath text) → other = text
  typings_file (other : String) : Present root n other →
    ¬Shares d other (Module.typingsPath text)

structure Functional (t : Toolchain) : Prop where
  compile (d d' : Disk) : t.compiler.compile d = t.compiler.compile d'
  format (d d' : Disk) : t.formatter.format d = t.formatter.format d'

end StyleTypings.Watch
