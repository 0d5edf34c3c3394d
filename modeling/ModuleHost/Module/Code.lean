import ModuleHost.Boundary.HostCall
import ModuleHost.Program

/-!
# What module code may do

`SelfOp` lists what module code can do on its own, at any time: leave a note,
report to the log, print a line. `ModuleOp` adds what it can do inside a request:
host callbacks, counting on the module's own counter, looking at the stamps on its
handles, and a pause, at which a call may be kept waiting.
-/
namespace ModuleHost

open Text Boundary

/-- The view's answer when the host refuses a header: the name as the module gave it. -/
structure HeaderRejected where
  name : String
  deriving DecidableEq, Repr

def HeaderRejected.message (e : HeaderRejected) : String :=
  "Host rejected header '" ++ e.name ++ "'"

/-- A remark that module code leaves for an observer. -/
inductive Note where
  | probed
  | loaded
  | unloaded
  | initStarted (n : Nat)
  | shutdownStarted (seen : Nat)
  | dropped
  | nothing
  | text (s : String)
  | bytes (b : Bytes)
  | number (n : Int)
  | flag (b : Bool)
  /-- Whether the stamps on the handles are live; a target may be missing. -/
  | stamps (request response : Bool) (target : Option Bool)
  | accepted
  | rejected (e : HeaderRejected)
  deriving DecidableEq, Repr

inductive SelfOp where
  | note (n : Note)
  | report (n : Notice)
  | print (line : String)
  deriving DecidableEq, Repr

/-- Printing may fail, with the text of the error. -/
abbrev SelfOp.Answer : SelfOp → Type
  | .note _ | .report _ => Unit
  | .print _ => Except String Unit

def SelfInterface : Interface := ⟨SelfOp, SelfOp.Answer⟩

inductive ModuleOp where
  | host (c : HostCall)
  | own (o : SelfOp)
  /-- Adds one to the module's counter and gives the new value. -/
  | count
  | stamps
  | canSetUri
  | pause
  deriving DecidableEq, Repr

abbrev ModuleOp.Answer : ModuleOp → Type
  | .host c => c.Answer
  | .own o => o.Answer
  | .count => Nat
  | .stamps => Bool × Bool × Option Bool
  | .canSetUri => Bool
  | .pause => Unit

def ModuleInterface : Interface := ⟨ModuleOp, ModuleOp.Answer⟩

abbrev SelfProgram := Program SelfInterface
abbrev ModuleProgram := Program ModuleInterface

namespace ModuleProgram

def host (c : HostCall) : ModuleProgram c.Answer := .op (I := ModuleInterface) (.host c)

def own (o : SelfOp) : ModuleProgram o.Answer := .op (I := ModuleInterface) (.own o)

def note (n : Note) : ModuleProgram Unit := own (.note n)

def report (n : Notice) : ModuleProgram Unit := own (.report n)

end ModuleProgram

namespace SelfProgram

def own (o : SelfOp) : SelfProgram o.Answer := .op (I := SelfInterface) o

def note (n : Note) : SelfProgram Unit := own (.note n)

end SelfProgram

end ModuleHost
