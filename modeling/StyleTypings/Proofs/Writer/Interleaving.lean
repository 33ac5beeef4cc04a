import StyleTypings.Proofs.Disk.Writing
import StyleTypings.World

namespace StyleTypings.Writer

theorem submit?_eq_some_iff {w w' : Writer} {r : WriteRequest} :
    w.submit? r = some w' ↔
      w.taking = true ∧ w.alive = true ∧ w' = { w with queue := w.queue ++ [r] } := by
  cases ht : w.taking <;> cases ha : w.alive <;> simp [submit?, accepts, ht, ha, eq_comm]

theorem next?_eq_some_iff {w w' : Writer} {r : WriteRequest} :
    w.next? = some (r, w') ↔
      w.alive = true ∧ w.queue = r :: w'.queue ∧ w' = { w with queue := w'.queue } := by
  obtain ⟨taking, alive, queue⟩ := w
  cases alive <;> cases queue <;> simp [next?]
  constructor
  · rintro ⟨rfl, rfl⟩
    simp
  · rintro ⟨⟨rfl, rfl⟩, h⟩
    exact ⟨rfl, h.symm⟩

/-- A request that was handed to a writer; no two have the same number. -/
structure Submission where
  number : Nat
  request : WriteRequest
deriving DecidableEq, Repr

structure Attempt where
  submission : Submission
  outcome : Disk.Outcome
deriving DecidableEq, Repr

def Attempt.fault? (a : Attempt) : Option Disk.Fault := a.outcome.fault?

def Attempt.left? (a : Attempt) : Option Text.Bytes :=
  a.outcome.left? (Text.encode a.submission.request.contents)

/-- A call of the log, by the thread of the writer or by one that handed in a request. -/
structure Report where
  thread : Thread
  submission : Submission
  fault : Disk.Fault
  /-- The call did not return. -/
  panicked : Bool
deriving DecidableEq, Repr

inductive Place where
  | waiting
  | attempting (s : Submission)
  | reporting (s : Submission) (fault : Disk.Fault)
  /-- Its report has panicked, and requests can still be sent to it. -/
  | unwinding
  | gone
deriving DecidableEq, Repr

inductive Finishing where
  | uncalled
  | joining
  /-- It has returned; `died` says that it found the thread dead. -/
  | returned (died : Bool)
deriving DecidableEq, Repr

/-- A writer with its thread, the threads around it, and all that they did. -/
structure Shared where
  disk : Disk
  writer : Writer := {}
  place : Place := .waiting
  finishing : Finishing := .uncalled
  queued : List Submission := []
  /-- The submissions that were in the queue when the thread died. -/
  lost : List Submission := []
  /-- The submissions that were not accepted and whose threads have not yet told the log. -/
  unreported : List Submission := []
  accepted : List Submission := []
  refused : List Submission := []
  attempts : List Attempt := []
  reports : List Report := []
  issued : Nat := 0

namespace Shared

variable {s s' : Shared}

def numbered (s : Shared) (r : WriteRequest) : Submission := ⟨s.issued, r⟩

inductive Submits : Shared → Shared → Prop
  | accept {s : Shared} {r : WriteRequest} {writer : Writer}
      (h : s.writer.submit? r = some writer) :
      Submits s { s with
        writer
        queued := s.queued ++ [s.numbered r]
        accepted := s.accepted ++ [s.numbered r]
        issued := s.issued + 1 }
  | refuse {s : Shared} {r : WriteRequest} (h : s.writer.submit? r = none) :
      Submits s { s with
        unreported := s.unreported ++ [s.numbered r]
        refused := s.refused ++ [s.numbered r]
        issued := s.issued + 1 }
  | reject {s : Shared} {sub : Submission} (h : sub ∈ s.unreported) (panicked : Bool) :
      Submits s { s with
        unreported := s.unreported.erase sub
        reports := s.reports ++ [⟨.main, sub, rejection, panicked⟩] }

/-- One step of the thread of the writer. Any write may fail, whether it has opened its file or
not. -/
inductive Works : Shared → Shared → Prop
  | take {s : Shared} {sub : Submission} {rest : List Submission} {writer : Writer}
      (hp : s.place = .waiting) (hq : s.queued = sub :: rest)
      (h : s.writer.next? = some (sub.request, writer)) :
      Works s { s with writer, queued := rest, place := .attempting sub }
  | write {s : Shared} {sub : Submission} {disk : Disk} (hp : s.place = .attempting sub)
      (h : s.disk.write (Text.encode sub.request.target) (Text.encode sub.request.contents) =
        .ok disk) :
      Works s { s with disk, attempts := s.attempts ++ [⟨sub, .written⟩], place := .waiting }
  | fail {s : Shared} {sub : Submission} {disk : Disk} (hp : s.place = .attempting sub)
      (fault : Disk.Fault) (left? : Option Text.Bytes)
      (h : s.disk.leave (Text.encode sub.request.target) left? = .ok disk) :
      Works s { s with
        disk
        attempts := s.attempts ++ [⟨sub, .failed fault left?⟩]
        place := .reporting sub fault }
  | report {s : Shared} {sub : Submission} {fault : Disk.Fault}
      (hp : s.place = .reporting sub fault) :
      Works s { s with
        reports := s.reports ++ [⟨.writer, sub, fault, false⟩]
        place := .waiting }
  | panic {s : Shared} {sub : Submission} {fault : Disk.Fault}
      (hp : s.place = .reporting sub fault) :
      Works s { s with
        reports := s.reports ++ [⟨.writer, sub, fault, true⟩]
        place := .unwinding }
  | die {s : Shared} (hp : s.place = .unwinding) :
      Works s { s with writer := s.writer.die, queued := [], lost := s.queued, place := .gone }
  | leave {s : Shared} (hp : s.place = .waiting) (ht : s.writer.taking = false)
      (hq : s.writer.queue = []) :
      Works s { s with place := .gone }

inductive Finishes : Shared → Shared → Prop
  | close {s : Shared} (hf : s.finishing = .uncalled) :
      Finishes s { s with writer := s.writer.close, finishing := .joining }
  | join {s : Shared} (hf : s.finishing = .joining) (hp : s.place = .gone) :
      Finishes s { s with finishing := .returned (!s.writer.alive) }

/-- One step of any thread: what happens under one lock, in one write or in one call of the log. -/
inductive Step (s s' : Shared) : Prop
  | submits (h : Submits s s')
  | works (h : Works s s')
  | finishes (h : Finishes s s')

inductive Reachable (d : Disk) : Shared → Prop
  | start : Reachable d { disk := d }
  | next {s s' : Shared} (h : Reachable d s) (step : Step s s') : Reachable d s'

def attempted (s : Shared) : List Submission := s.attempts.map (·.submission)

def written (s : Shared) : List Submission :=
  (s.attempts.filter (·.fault?.isNone)).map (·.submission)

def reportsOf (s : Shared) (sub : Submission) : Nat :=
  s.reports.countP (·.submission == sub)

def Panicked (s : Shared) : Prop := ∃ r ∈ s.reports, r.thread = .writer ∧ r.panicked = true

end Shared
end StyleTypings.Writer
