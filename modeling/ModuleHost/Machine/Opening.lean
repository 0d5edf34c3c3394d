import ModuleHost.Instance.Error
import ModuleHost.Machine.Shutdown

/-!
# Opening an instance

The module is asked for its ABI version first; a different one, or none where
one is required, is refused before anything else of the module runs. Then the
instance exists and `OnLoad` runs. If that fails, the instance is shut down at
once, and once more when it is dropped; the second time finds nothing to do.
-/
namespace ModuleHost

open Boundary

structure Opening where
  name : String
  path : Option String := none
  module : Nat
  exports : Exports
  requireAbi : Bool := false
  deriving DecidableEq, Repr

inductive OpenStage where
  | arriving
  | probing (h : HookStage)
  /-- The version is known, or the module does not tell it. -/
  | judging (found : Option UInt32)
  | loading (on : Nat) (h : HookStage)
  | abandoning (on : Nat) (code : Int) (s : ShutdownStage)
  | dropping (on : Nat) (code : Int) (s : ShutdownStage)
  | announcing (on : Nat)
  | done (r : Except HostError Nat)
  | escaped

namespace Opening

/-- The refusal of a version, if it is one. -/
def refusal? (o : Opening) : Option UInt32 → Option HostError
  | some found =>
    if found ≠ abiVersion then some (.incompatibleAbi o.name abiVersion found) else none
  | none => if o.requireAbi then some (.incompatibleAbi o.name abiVersion 0) else none

def toInstance (o : Opening) : Instance :=
  { name := o.name, path := o.path, module := o.module, exports := o.exports }

/-- The step of an opening whose instance does not exist yet; `next` is the number that
the instance will get. -/
def stepEarly (o : Opening) (next : Nat) (m : Module) :
    OpenStage → Option (OpenStage × Option Instance × Module × List Event)
  | .arriving => some (if o.exports.abiVersion then .probing .entering else .judging none, none, m, [])
  | .probing (.returned v) =>
    some (.judging (some v.toNat.toUInt32), none, m, [.left .moduleAbiVersion (some v)])
  | .probing .escaped => some (.escaped, none, m, [])
  | .probing h =>
    (h.step .probe m).map fun (h, m, events) => (.probing h, none, m, events)
  | .judging found =>
    match o.refusal? found with
    | some e => some (.done (.error e), none, m, [])
    | none =>
      some (if o.exports.onLoad then .loading next .entering else .announcing next,
        some o.toInstance, m, [])
  | _ => none

/-- The step of an opening whose instance exists. -/
def stepLate (i : Instance) (m : Module) :
    OpenStage → Option (OpenStage × Instance × Module × List Event)
  | .loading on (.returned code) =>
    if code = loadOk then some (.announcing on, i, m, [.left .onLoad (some code)])
    else
      some (.abandoning on code .arriving, i, m,
        [.left .onLoad (some code), .notice (.moduleInitFailed i.name code)])
  | .loading _ .escaped => some (.escaped, i, m, [])
  | .loading on h =>
    (h.step .load m).map fun (h, m, events) => (.loading on h, i, m, events)
  | .abandoning on code (.done _) => some (.dropping on code .arriving, i, m, [])
  | .abandoning on code s =>
    (s.step i m).map fun (s, i, m, events) => (.abandoning on code s, i, m, events)
  | .dropping _ code (.done _) => some (.done (.error (.initFailed i.name code)), i, m, [])
  | .dropping on code s =>
    (s.step i m).map fun (s, i, m, events) => (.dropping on code s, i, m, events)
  | .announcing on => some (.done (.ok on), i, m, [.notice (.moduleLoaded i.name i.exports)])
  | _ => none

end Opening

namespace OpenStage

/-- The instance that an opening works on, once it exists. -/
def on? : OpenStage → Option Nat
  | .loading on _ | .abandoning on _ _ | .dropping on _ _ | .announcing on => some on
  | _ => none

end OpenStage

end ModuleHost
