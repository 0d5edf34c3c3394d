/-!
# States of an instance and results of a shutdown
-/
namespace ModuleHost

inductive InstanceState where
  /-- Calls are admitted. -/
  | live
  /-- A shutdown has begun and waits for the calls inside. -/
  | draining
  /-- `OnUnload` has run and the library is released. -/
  | unloaded
  deriving DecidableEq, Repr

def InstanceState.name : InstanceState → String
  | .live => "Live"
  | .draining => "Draining"
  | .unloaded => "Unloaded"

inductive ShutdownOutcome where
  /-- This caller did the work. `drained` calls were inside when it began; `hook` says
  whether the module exports `OnUnload`. -/
  | completed (drained : Nat) (hook : Bool)
  | alreadyShutDown
  deriving DecidableEq, Repr

end ModuleHost
