import ModuleHost.Demo.Routing
import ModuleHost.Module.Script

/-!
# The demo module

Every request is answered `404 Hello World!` and described on one diagnostic
line. A proxy call goes to the address that its URI names. The handler counts
the requests it has answered or routed, and tells the number when it shuts down.
-/
namespace ModuleHost.Demo

open Text Boundary

/-- Prints a diagnostic line; a failure is only reported. -/
def emit (line : String) : ViewProgram Unit := do
  let written : Except String Unit ← View.op (.own (.print line))
  match written with
  | .ok _ => .ret ()
  | .error e => View.report (.diagnosticFailed e)

def handle : ViewProgram Unit := do
  let stored : Except HeaderRejected Unit ← View.op (.setHeader "hello" "world")
  match stored with
  | .ok _ => .ret ()
  | .error e => View.report (.headerNotSet e.message)
  View.writeText "Hello World!\n"
  View.op (.setStatus 404)
  let body ← View.bodyText
  let method : String ← View.op .method
  let uri : String ← View.op .uri
  let agent : Option String ← View.op (.header "User-Agent")
  emit (describe method uri (agent.getD "") (body.getD ""))
  let _ : Nat ← View.op .count
  return ()

def proxy : ViewProgram (Option String) := do
  let uri : String ← View.op .uri
  match route uri with
  | none => return none
  | some (address, rest) =>
    View.op (.setUri rest)
    let _ : Nat ← View.op .count
    return some address

def shutdown (served : Nat) : SelfProgram (Except String Unit) := do
  let written : Except String Unit ←
    SelfProgram.own (.print ("Unloading after " ++ toString served ++ " requests"))
  match written with
  | .ok _ => return .ok ()
  | .error e =>
    SelfProgram.own (.report (.diagnosticFailed e))
    return .ok ()

def handler : Handler where
  init := fun _ => .ret (.ok ())
  handle := fun _ => handle
  proxy := fun _ => proxy
  shutdown := shutdown

/-- The demo handler with scripted starts and endings, which leaves notes. -/
def observed (b : Behavior) : Handler where
  init := b.init
  handle := fun _ => handle
  proxy := fun _ => proxy
  shutdown := fun served => do
    SelfProgram.note (.shutdownStarted 0)
    let _ ← shutdown served
    b.shutdown.program
  drop := b.drop
  relay := Script.relay

end ModuleHost.Demo
