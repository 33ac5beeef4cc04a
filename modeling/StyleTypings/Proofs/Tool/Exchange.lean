import Mathlib.Logic.Function.Basic
import StyleTypings.Tool

namespace StyleTypings.Tool

open Function (update)
open Text (Bytes)

inductive Stream where
  | output
  | errors
deriving DecidableEq, Repr

/-- What a tool may do next; what it does after that depends on what it is told. -/
inductive Act (α : Type) where
  /-- Reads so many bytes at most. It is told which; they are none at the end of the input. -/
  | read (most : Nat) (next : Bytes → α)
  /-- Writes bytes. It is told how many of them were taken. -/
  | write (stream : Stream) (bytes : Bytes) (next : Nat → α)
  | closeInput (next : α)
  | close (stream : Stream) (next : α)
  | work (next : α)
  | exit (ending : Shell.Ending)

/-- A tool: in each of its states one or several things may come next, or none. -/
structure Child where
  State : Type
  first : State
  acts : State → Act State → Prop

structure Capacity where
  input : Nat
  output : Stream → Nat
  input_pos : 0 < input
  output_pos (stream : Stream) : 0 < output stream

inductive Feeder where
  | feeding (left : Bytes)
  /-- It has closed the input; `whole` says whether everything was accepted. -/
  | finished (whole : Bool)
deriving DecidableEq, Repr

inductive Caller where
  | collecting
  /-- The tool has ended, and the caller waits for the thread that fed it. -/
  | joining (ending : Shell.Ending)
  | returned (answer : Except Fault String)

inductive Life (α : Type) where
  | running (state : α)
  | exited (ending : Shell.Ending)

structure Outlet where
  held : Bytes := []
  writable : Bool := true
  collected : Bytes := []
  drained : Bool := false
  said : Bytes := []

namespace Outlet

def write (o : Outlet) (bytes : Bytes) : Outlet :=
  { o with held := o.held ++ bytes, said := o.said ++ bytes }

def close (o : Outlet) : Outlet := { o with writable := false }

def collect (o : Outlet) (bytes later : Bytes) : Outlet :=
  { o with held := later, collected := o.collected ++ bytes }

def drain (o : Outlet) : Outlet := { o with drained := true }

end Outlet

/-- What the caller makes of a tool that has ended; `whole` says whether it took its whole input.
How the tool ended comes first. -/
def settle (whole : Bool) (f : Shell.Finished) : Except Fault String :=
  if f.ending = .code 0 ∧ whole = false then
    .error (.spawnFailed (.other "Broken pipe (os error 32)"))
  else answer f

/-- A call of a tool. A thread of its own feeds the tool, while the caller collects both outputs;
the pipes in between hold so many bytes each. -/
structure Exchange (c : Child) where
  feeder : Feeder
  caller : Caller := .collecting
  child : Life c.State := .running c.first
  /-- The bytes on their way to the tool. -/
  input : Bytes := []
  readable : Bool := true
  outlets : Stream → Outlet := fun _ ↦ {}
  taken : Bytes := []
  sawEnd : Bool := false

namespace Exchange

variable {c : Child}

def finished (x : Exchange c) (ending : Shell.Ending) : Shell.Finished :=
  ⟨ending, (x.outlets .output).collected, (x.outlets .errors).collected⟩

inductive Step (capacity : Capacity) : Exchange c → Exchange c → Prop
  | feed {x : Exchange c} (bytes : Bytes) {left : Bytes}
      (hfeeder : x.feeder = .feeding (bytes ++ left)) (hbytes : bytes ≠ [])
      (hreadable : x.readable = true) (hroom : x.input.length + bytes.length ≤ capacity.input) :
      Step capacity x { x with feeder := .feeding left, input := x.input ++ bytes }
  | breakOff {x : Exchange c} {left : Bytes} (hfeeder : x.feeder = .feeding left)
      (hleft : left ≠ []) (hreadable : x.readable = false) :
      Step capacity x { x with feeder := .finished false }
  | fed {x : Exchange c} (hfeeder : x.feeder = .feeding []) :
      Step capacity x { x with feeder := .finished true }
  | collect {x : Exchange c} (stream : Stream) (bytes : Bytes) {later : Bytes}
      (hcaller : x.caller = .collecting) (hheld : (x.outlets stream).held = bytes ++ later)
      (hbytes : bytes ≠ []) :
      Step capacity x
        { x with outlets := update x.outlets stream ((x.outlets stream).collect bytes later) }
  | drain {x : Exchange c} (stream : Stream) (hcaller : x.caller = .collecting)
      (hdrained : (x.outlets stream).drained = false) (hheld : (x.outlets stream).held = [])
      (hwritable : (x.outlets stream).writable = false) :
      Step capacity x { x with outlets := update x.outlets stream (x.outlets stream).drain }
  | reap {x : Exchange c} {ending : Shell.Ending} (hcaller : x.caller = .collecting)
      (hdrained : ∀ stream, (x.outlets stream).drained = true) (hchild : x.child = .exited ending) :
      Step capacity x { x with caller := .joining ending }
  | join {x : Exchange c} {ending : Shell.Ending} {whole : Bool}
      (hcaller : x.caller = .joining ending) (hfeeder : x.feeder = .finished whole) :
      Step capacity x { x with caller := .returned (settle whole (x.finished ending)) }
  | read {x : Exchange c} {state : c.State} {most : Nat} {next : Bytes → c.State}
      (bytes : Bytes) {later : Bytes} (hchild : x.child = .running state)
      (hact : c.acts state (.read most next)) (hreadable : x.readable = true)
      (hinput : x.input = bytes ++ later) (hbytes : bytes ≠ []) (hmost : bytes.length ≤ most) :
      Step capacity x
        { x with child := .running (next bytes), input := later, taken := x.taken ++ bytes }
  | readEnd {x : Exchange c} {state : c.State} {most : Nat} {next : Bytes → c.State} {whole : Bool}
      (hchild : x.child = .running state) (hact : c.acts state (.read most next))
      (hreadable : x.readable = true) (hinput : x.input = [])
      (hfeeder : x.feeder = .finished whole) :
      Step capacity x { x with child := .running (next []), sawEnd := true }
  | write {x : Exchange c} {state : c.State} {stream : Stream} (bytes : Bytes) {left : Bytes}
      {next : Nat → c.State} (hchild : x.child = .running state)
      (hact : c.acts state (.write stream (bytes ++ left) next)) (hbytes : bytes ≠ [])
      (hwritable : (x.outlets stream).writable = true)
      (hroom : (x.outlets stream).held.length + bytes.length ≤ capacity.output stream) :
      Step capacity x
        { x with
          child := .running (next bytes.length)
          outlets := update x.outlets stream ((x.outlets stream).write bytes) }
  | closeInput {x : Exchange c} {state next : c.State} (hchild : x.child = .running state)
      (hact : c.acts state (.closeInput next)) :
      Step capacity x { x with child := .running next, readable := false }
  | close {x : Exchange c} {state next : c.State} {stream : Stream}
      (hchild : x.child = .running state) (hact : c.acts state (.close stream next)) :
      Step capacity x
        { x with
          child := .running next
          outlets := update x.outlets stream (x.outlets stream).close }
  | work {x : Exchange c} {state next : c.State} (hchild : x.child = .running state)
      (hact : c.acts state (.work next)) : Step capacity x { x with child := .running next }
  | exit {x : Exchange c} {state : c.State} {ending : Shell.Ending}
      (hchild : x.child = .running state) (hact : c.acts state (.exit ending)) :
      Step capacity x
        { x with
          child := .exited ending
          readable := false
          outlets := fun stream ↦ (x.outlets stream).close }

inductive Reachable (capacity : Capacity) (source : Bytes) : Exchange c → Prop
  | start : Reachable capacity source { feeder := .feeding source }
  | next {x y : Exchange c} (h : Reachable capacity source x) (step : Step capacity x y) :
      Reachable capacity source y

def Waits (x : Exchange c) : Prop :=
  match x.child with
  | .exited _ => True
  | .running state => (∃ act, c.acts state act) ∧ ∀ act, c.acts state act →
      match act with
      | .read most _ => 0 < most ∧ x.readable = true
      | .write stream bytes _ => bytes ≠ [] ∧ (x.outlets stream).writable = true
      | _ => False

end Exchange
end StyleTypings.Tool
