import StyleTypings.Proofs.Disk.Erasing
import StyleTypings.Proofs.Watch.Sheets

namespace StyleTypings.Watch

open Text (Bytes encode)
open World (Noted requests)

variable {t : Toolchain} {e : Exclusion} {root : String} {w w' : World}

structure Turn where
  path : String
  found : Except Disk.Fault String

namespace Turn

def act (t : Toolchain) (turn : Turn) : App (Except Disk.Fault Unit) :=
  update t turn.path turn.found

def request? (t : Toolchain) (d : Disk) (turn : Turn) : Option WriteRequest := do
  let content ← turn.found.toOption
  let names ← (t.namesOf d content turn.path).toOption
  return t.requestFor d names turn.path

end Turn

/-- Acting on a file hands in the request for its typings, or does nothing but tell why not. -/
theorem Turn.act_cases {turn : Turn} (hm : Module.isModule turn.path = true) (w : World) :
    turn.request? t w.disk = none ∧ Unmoved w ((turn.act t).run w).2 ∨
      ∃ r noted, turn.request? t w.disk = some r ∧ Noted w noted ∧
        Unmoved ((t.capabilities.submit r).run noted).2 ((turn.act t).run w).2 := by
  rcases update_cases (t := t) w hm turn.found with
    ⟨hfails, hsame⟩ | ⟨content, names, noted, hfound, hnames, hnoted, hsame⟩
  · refine .inl ⟨?_, hsame⟩
    cases hfound : turn.found with
    | error fault => simp [request?, hfound, Except.toOption]
    | ok content =>
      cases hnames : t.namesOf w.disk content turn.path with
      | error f => simp [request?, hfound, hnames, Except.toOption]
      | ok names => exact absurd hnames (hfails content names hfound)
  · refine .inr ⟨t.requestFor w.disk names turn.path, noted, ?_, hnoted, hsame⟩
    simp [request?, hfound, hnames, Except.toOption]

inductive Edit where
  | write (content : Bytes)
  | remove

def Edit.result? (d : Disk) (path : Bytes) : Edit → Option Disk
  | .write content => (d.write path content).toOption
  | .remove => d.removeFile? path

theorem Edit.exists_disturbs {d d' : Disk} {path : Bytes} {edit : Edit}
    (h : edit.result? d path = some d') :
    ∃ spot, d.spot? path = some spot ∧ Disk.Disturbs d d' spot := by
  cases edit with
  | write content =>
    unfold result? at h
    cases hw : d.write path content with
    | error fault => simp [hw, Except.toOption] at h
    | ok disk =>
      obtain rfl : disk = d' := by simpa [hw, Except.toOption] using h
      obtain ⟨spot, hspot, hstores⟩ := Disk.exists_stores hw
      exact ⟨spot, hspot, hstores.disturbs⟩
  | remove => exact Disk.exists_disturbs_of_remove h

/-- Events wait until the program takes them. It reads the stylesheets of one, and acts on each when
it has read it; meanwhile the writer works, files are edited and further events come. -/
structure Loop where
  world : World
  inbox : List Event := []
  /-- The stylesheets of an event that the program has yet to read. -/
  todo : List String := []
  /-- The stylesheet that was read and not yet acted on. -/
  held : Option Turn := none
  /-- What acting on the last one came to; behind an error the program has ended. -/
  outcome : Except Disk.Fault Unit := .ok ()
  taken : List Event := []
  turns : List Turn := []
  /-- Stylesheets whose files were changed, under whatever path. -/
  edited : String → Prop := fun _ ↦ False
  /-- Stylesheets whose files were changed and that no event that counts has named since. -/
  awaited : String → Prop := fun _ ↦ False
  /-- Stylesheets whose typings were changed by an edit while no request for them waited, and that
  were not acted on since. -/
  spoiled : String → Prop := fun _ ↦ False

namespace Loop

def begin (w : World) : Loop := { world := w }

variable (t : Toolchain) (e : Exclusion) (root : String)

/-- What the program and its writer can do next. Between any two steps of the program the writer
gets as far as a schedule says. -/
inductive Works : Loop → Loop → Prop
  | take {s : Loop} {event : Event} {later : List Event} (hlive : s.outcome = .ok ())
      (hinbox : s.inbox = event :: later) (htodo : s.todo = []) (hheld : s.held = none) :
      Works s { s with
        inbox := later
        todo := event.stylesheets root e
        taken := s.taken ++ [event] }
  | read {s : Loop} {path : String} {later : List String} {w : World} (schedule : List Nat)
      (hlive : s.outcome = .ok ()) (htodo : s.todo = path :: later) (hheld : s.held = none)
      (h : (World.pause.run { s.world with schedule }).2 = w) :
      Works s { s with
        world := w
        todo := later
        held := some ⟨path, w.disk.readText (encode path)⟩ }
  | act {s : Loop} {turn : Turn} {outcome : Except Disk.Fault Unit} {w : World}
      (schedule : List Nat) (hlive : s.outcome = .ok ()) (hheld : s.held = some turn)
      (h : (turn.act t).run { s.world with schedule } = (outcome, w)) :
      Works s { s with
        world := w
        held := none
        outcome
        turns := s.turns ++ [turn]
        spoiled := fun text ↦ s.spoiled text ∧ text ≠ turn.path }
  | work {s : Loop} : Works s { s with world := (World.work.run s.world).2 }

inductive Step : Loop → Loop → Prop
  | works {s s' : Loop} (h : Works t e root s s') : Step s s'
  | raise {s : Loop} (event : Event) (htold : Told (encode root) event.paths) :
      Step s { s with
        inbox := s.inbox ++ [event]
        awaited := fun text ↦
          s.awaited text ∧ ¬(event.counts = true ∧ encode text ∈ event.paths) }
  | edit {s : Loop} {path : Bytes} {edit : Edit} {disk : Disk}
      (h : edit.result? s.world.disk path = some disk) :
      Step s { s with
        world := { s.world with disk }
        edited := fun text ↦
          s.edited text ∨ s.world.disk.spot? (encode text) = s.world.disk.spot? path
        awaited := fun text ↦
          s.awaited text ∨ s.world.disk.spot? (encode text) = s.world.disk.spot? path
        spoiled := fun text ↦ s.spoiled text ∨
          s.world.disk.spot? (encode (Module.typingsPath text)) = s.world.disk.spot? path ∧
            ∀ r ∈ s.world.writer.queue, r.target ≠ Module.typingsPath text }

variable {s : Loop}

open Relation (ReflTransGen)

end Loop

end StyleTypings.Watch
