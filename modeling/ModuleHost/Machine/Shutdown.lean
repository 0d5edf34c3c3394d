import ModuleHost.Instance.Gate
import ModuleHost.Machine.Hook

/-!
# Shutting an instance down

The caller that finds the gate open closes it, waits until no call is inside,
runs `OnUnload` if the module exports it, releases the library, publishes the
state and wakes the others. Every other caller sleeps until a broadcast made
after it fell asleep, and looks again.
-/
namespace ModuleHost

open Boundary

inductive ShutdownStage where
  /-- Looks at the state for the first time. -/
  | arriving
  /-- The gate is closed; `inside` calls were in flight then. -/
  | draining (inside : Nat)
  | unloading (inside : Nat) (h : HookStage)
  | unmapping (inside : Nat) (hook : Bool)
  | publishing (inside : Nat) (hook : Bool)
  | broadcasting (inside : Nat) (hook : Bool)
  | reporting (inside : Nat) (hook : Bool)
  /-- Waits for a broadcast after the first `since` ones. -/
  | asleep (since : Nat)
  | done (o : ShutdownOutcome)
  | escaped

namespace ShutdownStage

/-- What a caller does who finds the gate closed. -/
def look (i : Instance) : ShutdownStage :=
  if i.gate.state = .unloaded then .done .alreadyShutDown else .asleep i.broadcasts

def step (i : Instance) (m : Module) :
    ShutdownStage → Option (ShutdownStage × Instance × Module × List Event)
  | .arriving =>
    match i.gate.close? with
    | some g => some (.draining g.inFlight, { i with gate := g }, m, [.gateClosed g.inFlight])
    | none => some (look i, i, m, [])
  | .asleep since => if since < i.broadcasts then some (look i, i, m, []) else none
  | .draining inside =>
    if i.gate.inFlight = 0 then
      some (if i.exports.onUnload then .unloading inside .entering else .unmapping inside false,
        i, m, [])
    else none
  | .unloading inside (.returned _) => some (.unmapping inside true, i, m, [.left .onUnload])
  | .unloading _ .escaped => some (.escaped, i, m, [])
  | .unloading inside h =>
    (h.step .unload m).map fun (h, m, events) => (.unloading inside h, i, m, events)
  | .unmapping inside hook =>
    some (.publishing inside hook, { i with mapped := false }, m, [.unmapped])
  | .publishing inside hook =>
    some (.broadcasting inside hook, { i with gate := i.gate.publishUnloaded }, m, [.published])
  | .broadcasting inside hook =>
    some (.reporting inside hook, { i with broadcasts := i.broadcasts + 1 }, m, [])
  | .reporting inside hook =>
    some (.done (.completed inside hook), i, m,
      [.notice (.moduleUnloaded i.name i.gate.served inside)])
  | .done _ => none
  | .escaped => none

end ShutdownStage

end ModuleHost
