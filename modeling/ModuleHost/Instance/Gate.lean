import ModuleHost.Boundary.Abi
import ModuleHost.Instance.State

/-!
# Instances and their gate

An instance is one opening of a module. Its gate counts the calls inside; it
admits a call only while the instance is live. All four fields of the gate change
under one lock, so each operation here is one step.
-/
namespace ModuleHost

open Boundary

structure Gate where
  state : InstanceState := .live
  inFlight : Nat := 0
  /-- Calls that have finished. -/
  served : Nat := 0
  /-- The most calls that were inside at one time. -/
  peak : Nat := 0
  deriving DecidableEq, Repr

namespace Gate

def admit? (g : Gate) : Option Gate :=
  if g.state = .live then
    some { g with inFlight := g.inFlight + 1, peak := max g.peak (g.inFlight + 1) }
  else none

def release (g : Gate) : Gate := { g with inFlight := g.inFlight - 1, served := g.served + 1 }

/-- Stops admission; none where a shutdown has begun before. -/
def close? (g : Gate) : Option Gate :=
  if g.state = .live then some { g with state := .draining } else none

def publishUnloaded (g : Gate) : Gate := { g with state := .unloaded }

end Gate

structure Instance where
  name : String
  /-- The library's path, none for a module of this process. -/
  path : Option String := none
  module : Nat
  exports : Exports
  /-- Whether the instance holds its library in memory. -/
  mapped : Bool := true
  gate : Gate := {}
  /-- How often the end of the shutdown has been broadcast. -/
  broadcasts : Nat := 0
  deriving DecidableEq, Repr

/-- The counters as one text. -/
def Gate.describe (g : Gate) : String :=
  "InstanceStats \x7b state: " ++ g.state.name ++ ", calls_served: " ++ toString g.served
    ++ ", in_flight: " ++ toString g.inFlight ++ ", peak_concurrency: " ++ toString g.peak ++ " \x7d"

def Instance.describe (i : Instance) : String :=
  "ModuleInstance \x7b name: " ++ Text.quote i.name ++ ", path: "
    ++ i.path.elim "None" (fun p => "Some(" ++ Text.quote p ++ ")")
    ++ ", entry: " ++ i.exports.describe ++ ", stats: " ++ i.gate.describe ++ " \x7d"

end ModuleHost
