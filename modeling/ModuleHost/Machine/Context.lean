import ModuleHost.Module.Handler

/-!
# The state of a module

A module written as a handler keeps one handler value in a slot behind a
read-write lock, with a count of the generations built and of the requests
dispatched. A writer first claims the lock, which keeps new readers out, and then
waits until the readers inside have left.

Entry points written against the callbacks have only a counter.
-/
namespace ModuleHost

open Boundary

/-- One handler value: the generation that it belongs to, and its counter. -/
structure HandlerValue where
  generation : Nat
  seen : Nat := 0
  deriving DecidableEq, Repr

inductive Slot where
  /-- Never started, or the last start failed. -/
  | fresh
  | live (v : HandlerValue)
  /-- `OnUnload` ran; only `OnLoad` revives the module. -/
  | tornDown
  deriving DecidableEq, Repr

inductive Phase where
  | fresh | live | tornDown
  deriving DecidableEq, Repr

def Slot.phase : Slot → Phase
  | .fresh => .fresh
  | .live _ => .live
  | .tornDown => .tornDown

structure Lock where
  readers : Nat := 0
  /-- Whether a writer has claimed the lock. -/
  claimed : Bool := false
  deriving DecidableEq, Repr

namespace Lock

def acquireRead? (l : Lock) : Option Lock :=
  if l.claimed then none else some { l with readers := l.readers + 1 }

def releaseRead (l : Lock) : Lock := { l with readers := l.readers - 1 }

def claim? (l : Lock) : Option Lock := if l.claimed then none else some { l with claimed := true }

def releaseWrite (l : Lock) : Lock := { l with claimed := false }

end Lock

structure Context where
  slot : Slot := .fresh
  lock : Lock := {}
  /-- Generations built so far. -/
  generation : Nat := 0
  /-- Requests dispatched to a handler, in all generations. -/
  calls : Nat := 0
  /-- Starts tried so far. -/
  starts : Nat := 0
  deriving DecidableEq, Repr

def Context.phase (c : Context) : Phase := c.slot.phase

structure Module where
  code : Code
  /-- What `ModuleAbiVersion` runs. -/
  probe : SelfProgram UInt32 := .ret abiVersion
  /-- The error with which the n-th print fails, counted from 0; none where it works. -/
  sink : Nat → Option String := fun _ => none
  context : Context := {}
  /-- The counter of entry points that are no handler. -/
  tally : Nat := 0
  /-- Prints tried so far. -/
  prints : Nat := 0

namespace Module

def setContext (m : Module) (c : Context) : Module := { m with context := c }

def isHandler (m : Module) : Bool := m.code matches .handler ..

/-- How what the module's callbacks hand out is let go. -/
def drops (m : Module) : Drops :=
  match m.code with
  | .handler _ drops => drops
  | .entries _ => {}

/-- Where nothing else is said, values are let go quietly. -/
theorem parting_quiet {m : Module} {h : Handler} (code : m.code = .handler h) (r : Upshot) :
    m.drops.parting r = .quiet := by
  simp only [drops, code, Drops.parting_quiet]

/-- Adds one to the counter of the code that is running, and gives the new value. -/
def count (m : Module) : Nat × Module :=
  match m.code, m.context.slot with
  | .handler .., .live v =>
    (v.seen + 1, m.setContext { m.context with slot := .live { v with seen := v.seen + 1 } })
  | .handler .., _ => (0, m)
  | .entries _, _ => (m.tally + 1, { m with tally := m.tally + 1 })

/-- Tries to print: the error, if it fails. -/
def print (m : Module) : Option String × Module :=
  (m.sink m.prints, { m with prints := m.prints + 1 })

end Module

end ModuleHost
