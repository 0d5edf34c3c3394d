import ModuleHost.Module.Handler

/-!
# Scripted modules

A scripted handler performs the actions of its errand one after the other and
leaves a note after each; scripted entries do the same on the host callbacks.
`Behavior` fixes how such a module starts, ends and is dropped.
-/
namespace ModuleHost

open Text Boundary

/-- How a callback ends. -/
inductive Ending where
  | ok
  | fails (error : String)
  | panics (p : Payload)
  deriving DecidableEq, Repr

def Ending.program : Ending → SelfProgram (Except String Unit)
  | .ok => .ret (.ok ())
  | .fails error => .ret (.error error)
  | .panics p => .panic p

/-- What the host asks of one view, and what comes back. -/
def Action.perform : Action → ViewProgram Note
  | .method => (View.op .method).bind fun (s : String) => .ret (.text s)
  | .uri => (View.op .uri).bind fun (s : String) => .ret (.text s)
  | .header name =>
    (View.op (.header name)).bind fun (v : Option String) => .ret (v.elim .nothing .text)
  | .body => (View.op .body).bind fun (b : Option Bytes) => .ret (b.elim .nothing .bytes)
  | .bodyText => View.bodyText.bind fun t => .ret (t.elim .nothing .text)
  | .count => do
    let seen : Nat ← View.op .count
    View.writeText (toString seen)
    return .number seen
  | .setUri text => (View.op (.setUri text)).bind fun _ => .ret .nothing
  | .status code => (View.op (.setStatus code)).bind fun _ => .ret .nothing
  | .getStatus => (View.op .status).bind fun (c : UInt16) => .ret (.number c.toNat)
  | .setHeader name value =>
    (View.op (.setHeader name value)).bind fun (r : Except HeaderRejected Unit) =>
      .ret (match r with | .ok _ => .accepted | .error e => .rejected e)
  | .write bytes => (View.op (.writeBody bytes)).bind fun _ => .ret .nothing
  | .writeText text => (View.writeText text).bind fun _ => .ret .nothing
  | .pause => (View.op .pause).bind fun _ => .ret .nothing
  | .target _ => .ret .nothing
  | .panic p => .panic p

namespace Script

/-- Performs the actions; the last address set is the result. -/
def run (target : Option String) : List Action → ViewProgram (Option String)
  | [] => .ret target
  | .target address :: rest => do
    View.note .nothing
    run address rest
  | .setUri uri :: rest => do
    let _ ← (Action.setUri uri).perform
    let n ← Action.uri.perform
    View.note n
    run target rest
  | a :: rest => do
    let n ← a.perform
    View.note n
    run target rest

def handle (e : Errand) : ViewProgram Unit := (run none e.actions).bind fun _ => .ret ()

def proxy (e : Errand) : ViewProgram (Option String) := run none e.actions

def divert : Bool × Handles → Diversion → Bool × Handles
  | (p, h), .nullRequest => (p, { h with request := none })
  | (p, h), .noRequestTable => (p, { h with request := h.request.map ({ · with table := none }) })
  | (p, h), .nullResponse => (p, { h with response := none })
  | (p, h), .noResponseTable => (p, { h with response := h.response.map ({ · with table := none }) })
  | (p, h), .nullTarget => (p, { h with target := none })
  | (_, h), .asProxy => (true, { h with target := none })
  | (_, h), .asRequest => (false, h)

def relay (e : Errand) (proxy : Bool) (handles : Handles) : Bool × Handles :=
  e.diversions.foldl divert (proxy, handles)

end Script

namespace RawAction

private def optional (b : Option Bytes) : Note := b.elim .nothing .bytes

def perform : RawAction → ModuleProgram Note
  | .stamps => (Program.op (I := ModuleInterface) .stamps).bind
      fun (s : Bool × Bool × Option Bool) => .ret (.stamps s.1 s.2.1 s.2.2)
  | .method => (ModuleProgram.host .method).bind fun b => .ret (optional b)
  | .uri => (ModuleProgram.host .uri).bind fun b => .ret (optional b)
  | .header name => (ModuleProgram.host (.header name)).bind fun b => .ret (optional b)
  | .body => (ModuleProgram.host .body).bind fun b => .ret (optional b)
  | .canSetUri => (Program.op (I := ModuleInterface) .canSetUri).bind fun (b : Bool) => .ret (.flag b)
  | .setUri text => do
    let granted : Bool ← Program.op (I := ModuleInterface) .canSetUri
    if granted then ModuleProgram.host (.setUri text) else .ret ()
    let b : Option Bytes ← ModuleProgram.host .uri
    return optional b
  | .getStatus => (ModuleProgram.host .status).bind fun (c : UInt16) => .ret (.number c.toNat)
  | .status code => (ModuleProgram.host (.setStatus code)).bind fun _ => .ret .nothing
  | .setHeader name value =>
    (ModuleProgram.host (.setHeader name value)).bind fun (c : Int) => .ret (.number c)
  | .write bytes => (ModuleProgram.host (.writeBody bytes)).bind fun _ => .ret .nothing
  | .target address => (ModuleProgram.host (.setTarget address)).bind fun _ => .ret .nothing
  | .pause => (Program.op (I := ModuleInterface) .pause).bind fun _ => .ret .nothing

def runAll : List RawAction → ModuleProgram Unit
  | [] => .ret ()
  | a :: rest => do
    let n ← a.perform
    ModuleProgram.note n
    runAll rest

end RawAction

/-- How a scripted module starts, ends and is dropped. -/
structure Behavior where
  /-- The endings of its starts; the last one repeats, and none means that all succeed. -/
  inits : List Ending := []
  shutdown : Ending := .ok
  /-- What dropping the value panics with. -/
  dropPanic : Option String := none
  deriving DecidableEq, Repr

namespace Behavior

def initEnding (b : Behavior) (n : Nat) : Ending :=
  (b.inits[n]?).getD (b.inits.getLast?.getD .ok)

def init (b : Behavior) (n : Nat) : SelfProgram (Except String Unit) := do
  SelfProgram.note (.initStarted n)
  (b.initEnding n).program

def drop (b : Behavior) : SelfProgram Unit := do
  SelfProgram.note .dropped
  match b.dropPanic with
  | none => .ret ()
  | some text => .panic (.text text)

/-- A handler that takes all its orders from its errands. -/
def scripted (b : Behavior) : Handler where
  init := b.init
  handle := Script.handle
  proxy := Script.proxy
  shutdown := fun seen => do
    SelfProgram.note (.shutdownStarted seen)
    b.shutdown.program
  drop := b.drop
  relay := Script.relay

/-- The same with neither a proxy nor a shutdown of its own. -/
def plain (b : Behavior) : Handler where
  init := b.init
  handle := Script.handle
  drop := b.drop
  relay := Script.relay

end Behavior

/-- Scripted entry points; `OnLoad` returns `code`. -/
def Entries.scripted (code : Int) : Entries where
  request := fun e => RawAction.runAll e.rawActions
  proxy := fun e => RawAction.runAll e.rawActions
  onLoad := do
    SelfProgram.note .loaded
    return code
  onUnload := fun _ => SelfProgram.note .unloaded

end ModuleHost
