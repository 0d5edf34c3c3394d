import ModuleHost.Machine.System

/-!
# What operations come to

The answers of the machine's threads, as a scenario tells them.
-/
namespace ModuleHost.Scenario

open Boundary

structure Called where
  response : Response
  /-- For proxy calls, the URI afterwards. -/
  uri : Option String
  /-- For proxy calls that succeed, the target address. -/
  target : Option (Option String)
  failed : Option HostError
  deriving DecidableEq, Repr

/-- What an operation that has finished comes to. -/
inductive Outcome where
  | called (c : Called)
  | shutDown (o : ShutdownOutcome)
  | code (n : Int)
  | nothing
  deriving DecidableEq, Repr

/-- Reads off what a finished thread comes to. -/
def outcome? (finalize : Option UInt16) : Report → Option Outcome
  | .called r proxy data =>
    some (.called
      { response := finalize.elim data.response data.response.finalize
        uri := if proxy then some data.request.uri else none
        target := match proxy, r with
          | true, .ok _ => some data.target
          | _, _ => none
        failed := match r with
          | .ok _ => none
          | .error e => some e })
  | .shutDown o => some (.shutDown o)
  | .hooked .unload _ => some .nothing
  | .hooked _ code => some (.code code)
  | .dropped | .visited => some .nothing
  | .opened _ => none

/-- The notes among events, in order. -/
def notes (events : List Event) : List Note :=
  events.filterMap fun | .note n => some n | _ => none

/-- The notices among events, in order. -/
def notices (events : List Event) : List Notice :=
  events.filterMap fun | .notice n => some n | _ => none

/-- What module code has printed, in order. -/
def printed (events : List Event) : String :=
  String.join (events.filterMap fun | .printed text => some text | _ => none)

/-- A call through an instance. -/
structure CallSpec where
  on : String
  proxy : Bool := false
  request : Request
  response : Response := {}
  errand : Errand := {}
  /-- The status to finalize the response with before it is told. -/
  finalize : Option UInt16 := none
  deriving DecidableEq, Repr

/-- The call, on the instance with this number. -/
def CallSpec.task (c : CallSpec) (n : Nat) : Task :=
  .calling (Call.start n c.proxy c.request c.response c.errand)

end ModuleHost.Scenario
