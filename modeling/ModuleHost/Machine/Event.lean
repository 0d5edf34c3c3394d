import ModuleHost.Module.Code

/-!
# Events

What a step of the machine leaves in the history: module code that starts or
ends, passages through an instance's gate, and what module code and host show to
the outside.
-/
namespace ModuleHost

open Boundary

inductive Event where
  | entered (e : EntryPoint)
  /-- The entry returned, with this value if it gives one. -/
  | left (e : EntryPoint) (value : Option Int := none)
  /-- The n-th start of a handler began. -/
  | startBegun (n : Nat)
  | built (generation : Nat)
  | startFailed
  | handlerBegun (generation : Nat)
  | handlerEnded (generation : Nat)
  | shutdownBegun (generation : Nat)
  | dropped (generation : Nat)
  | admitted
  | refused
  | released
  /-- The gate closed with this many calls inside. -/
  | gateClosed (inside : Nat)
  | unmapped
  | published
  | note (n : Note)
  | notice (n : Notice)
  | printed (text : String)
  deriving DecidableEq, Repr

end ModuleHost
