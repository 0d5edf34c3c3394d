import ModuleHost.Demo.Handler
import ModuleHost.Scenario.Outcome

/-!
# Scenarios: what can be asked and what is told

A scenario fixes one to three modules and plays a list of steps on them. Most
steps run one operation to its end; some start an operation on a thread of its
own and leave it waiting inside a module until a later step releases it.
Instances are known by keys and waiting threads by names.
-/
namespace ModuleHost.Scenario

open Boundary

inductive Kind where
  | scripted
  /-- A scripted handler with neither proxy nor shutdown. -/
  | plain
  /-- The demo handler, with scripted start and end, and notes. -/
  | demo
  /-- The demo module as it is; it has been unloaded before. -/
  | exported
  /-- Scripted entry points. -/
  | raw
  deriving DecidableEq, Repr

structure ModuleSpec where
  kind : Kind := .scripted
  abi : UInt32 := abiVersion
  behavior : Behavior := {}
  loadCode : Int := 0
  sink : Option String := none
  deriving DecidableEq, Repr

namespace ModuleSpec

def code (s : ModuleSpec) : Code :=
  match s.kind with
  | .scripted => .handler s.behavior.scripted
  | .plain => .handler s.behavior.plain
  | .demo => .handler (Demo.observed s.behavior)
  | .exported => .handler Demo.handler
  | .raw => .entries (Entries.scripted s.loadCode)

def probe (s : ModuleSpec) : SelfProgram UInt32 :=
  if s.kind = .exported then .ret s.abi
  else do
    SelfProgram.note .probed
    return s.abi

def toModule (s : ModuleSpec) : Module where
  code := s.code
  probe := s.probe
  sink := fun _ => s.sink
  context := { slot := if s.kind = .exported then .tornDown else .fresh }

end ModuleSpec

inductive Step where
  | opening (on name : String) (module : Nat) (exports : Exports) (requireAbi : Bool)
  | call (c : CallSpec)
  | shutdown (on : String)
  | drop (on : String)
  | describe (on : String)
  | isLive (on : String)
  | hook (module : Nat) (h : Hook)
  | nullCall (module : Nat) (proxy : Bool)
  | hold (id : String) (c : CallSpec)
  | release (id : String)
  | shutdownAside (on id : String)
  | hookAside (module : Nat) (h : Hook) (id : String)
  | join (id : String)
  | burst (on : String) (n : Nat) (errand : Errand)
  deriving Repr

/-- An operation on a thread of its own, with the thread's notes and notices. -/
structure Told where
  outcome : Outcome
  trace : List Note
  log : List Notice
  deriving DecidableEq, Repr

inductive Answer where
  | opened (i : Instance)
  | refused (e : HostError)
  | finished (o : Outcome)
  | text (s : String)
  | flag (b : Bool)
  /-- A call is held inside the instance; nothing was done. -/
  | wouldBlock
  | held
  | told (t : Told)
  | released (on : String) (t : Told)
  | blocked (b : Bool)
  | burst (during : Gate) (responses : List Outcome)
  /-- The step names an instance or a thread that is not there, or never comes to an end. -/
  | stuck
  deriving DecidableEq, Repr

/-- How a module stands after a step. -/
inductive ModuleView where
  | noContext
  /-- A background hook of the module has not finished. -/
  | locked
  | seen (phase : Phase) (generation calls : Nat)
  deriving DecidableEq, Repr

structure StepAnswer where
  answer : Answer
  trace : List Note
  log : List Notice
  instances : List (String × Gate)
  modules : List ModuleView
  /-- Per module, what it has printed since the last step. -/
  output : List String
  deriving DecidableEq, Repr

end ModuleHost.Scenario
