import ModuleHost.Machine.Hook

/-!
# The request entry points

Positions of a thread inside `HandleRequest` or `HandleProxyRequest`, and the
step from one to the next.

A handler module looks at its handles first; null ones end the visit. It then
takes the lock for reading and runs the handler if the slot is live. A fresh slot
is filled on the way: the thread gives the read lock back, takes the write lock,
starts the handler if the slot is still fresh, and reads again. The read lock is
held as long as the handler runs. A torn-down module drops the request.
-/
namespace ModuleHost

open Boundary

inductive VisitStage where
  | entering
  /-- About to take the lock for reading and look at the slot. -/
  | firstRead (p : ModuleProgram Unit)
  /-- Found the slot fresh; wants the lock for writing. -/
  | claiming (p : ModuleProgram Unit)
  | draining (p : ModuleProgram Unit)
  | initializing (p : ModuleProgram Unit) (i : SelfProgram (Except String Unit))
  | secondRead (p : ModuleProgram Unit)
  /-- Holds the lock for reading while the handler of this generation runs. -/
  | running (generation : Nat) (p : ModuleProgram Unit)
  /-- Code without a lock. -/
  | plain (p : ModuleProgram Unit)
  | returned
  | faulted (f : Fault)
  /-- A panic left the entry point. -/
  | escaped

/-- One call of a request entry point. -/
structure Visit where
  proxy : Bool
  errand : Errand := {}
  /-- As the host gave them. -/
  handles : Handles := {}
  /-- As the module's code uses them. -/
  given : Handles := {}
  data : CallData
  stage : VisitStage := .entering

namespace Visit

def entry (v : Visit) : EntryPoint :=
  if v.proxy then .handleProxyRequest else .handleRequest

/-- Runs one operation of module code: the answer, or the fault that it meets. -/
def perform (v : Visit) (m : Module) :
    (o : ModuleOp) → Except Fault (o.Answer × CallData × Module × List Event)
  | .host c =>
    match v.given.permit c with
    | .error f => .error f
    | .ok _ =>
      let (a, data, notices) := v.data.answer c
      .ok (a, data, m, notices.map Event.notice)
  | .own o =>
    let (a, m, events) := SelfOp.perform m o
    .ok (a, v.data, m, events)
  | .count =>
    let (n, m) := m.count
    .ok (n, v.data, m, [])
  | .stamps =>
    .ok (((v.given.request.map Handle.isLive).getD false,
      (v.given.response.map Handle.isLive).getD false, v.given.target.map Handle.isLive),
      v.data, m, [])
  | .canSetUri => .ok (v.given.canSetUri, v.data, m, [])
  | .pause => .ok ((), v.data, m, [])

/-- The first position inside the entry of a module. -/
def enter (v : Visit) (m : Module) : Visit × List Event :=
  match m.code with
  | .entries e =>
    ({ v with given := v.handles,
              stage := .plain (if v.proxy then e.proxy v.errand else e.request v.errand) },
      [.entered v.entry])
  | .handler h drops =>
    let (proxy, given) := h.relay v.errand v.proxy v.handles
    match views? proxy given with
    | .error f => ({ v with given, stage := .faulted f }, [.entered v.entry])
    | .ok false =>
      ({ v with given, stage := .returned }, [.entered v.entry, .notice (.nullHandle proxy)])
    | .ok true =>
      ({ v with given, stage := .firstRead (h.guarded proxy v.errand given drops) }, [.entered v.entry])

/-- Takes the lock for reading and begins the handler of a live slot; otherwise the thread
goes on at `fresh` or `torn`, without the lock. -/
def read (v : Visit) (m : Module) (p : ModuleProgram Unit) (fresh torn : VisitStage)
    (tornEvents : List Event) : Option (Visit × Module × List Event) :=
  m.context.lock.acquireRead?.map fun l =>
    match m.context.slot with
    | .live h =>
      ({ v with stage := .running h.generation p },
        m.setContext { m.context with lock := l, calls := m.context.calls + 1 },
        [.handlerBegun h.generation])
    | .fresh => ({ v with stage := fresh }, m, [])
    | .tornDown => ({ v with stage := torn }, m, tornEvents)

/-- What the thread does once it has the lock for itself: start the handler, if the slot is
still fresh. -/
def locked (v : Visit) (m : Module) (h : Handler) (p : ModuleProgram Unit) :
    Visit × Module × List Event :=
  let c := m.context
  match c.slot with
  | .fresh =>
    ({ v with stage := .initializing p (h.init c.starts) }, m.setContext c.beginStart,
      [.startBegun c.starts])
  | _ => ({ v with stage := .secondRead p }, m.setContext c.releaseWrite, [])

/-- The end of a start, which lets the request go on if it built a value. -/
def afterStart (v : Visit) (m : Module) (p : ModuleProgram Unit) (r : Upshot) :
    Visit × Module × List Event :=
  let parting := m.drops.parting r
  let (c, events) := m.context.endStart (startNotice r) parting
  let stage := match parting, r with
    | .quiet, .ok (.ok _) => .secondRead p
    | .quiet, _ => .returned
    | _, _ => .escaped
  ({ v with stage }, m.setContext c, events)

def step (m : Module) (v : Visit) : Option (Visit × Module × List Event) :=
  match v.stage with
  | .entering =>
    let (v, events) := v.enter m
    some (v, m, events)
  | .firstRead p => v.read m p (.claiming p) .returned [.notice .requestAfterUnload]
  | .claiming p =>
    m.context.lock.claim?.map fun l =>
      ({ v with stage := .draining p }, m.setContext { m.context with lock := l }, [])
  | .draining p =>
    match m.code with
    | .handler h _ => if m.context.lock.readers = 0 then some (v.locked m h p) else none
    | .entries _ => none
  | .initializing p (.ask o next) =>
    let (a, m, events) := SelfOp.perform m o
    some ({ v with stage := .initializing p (next a) }, m, events)
  | .initializing p (.ret r) => some (v.afterStart m p (.ok r))
  | .initializing p (.panic q) => some (v.afterStart m p (.error q))
  | .secondRead p => v.read m p .returned .returned []
  | .running g (.ask o next) =>
    match v.perform m o with
    | .error f => some ({ v with stage := .faulted f }, m, [])
    | .ok (a, data, m, events) => some ({ v with data, stage := .running g (next a) }, m, events)
  | .running g (.ret _) =>
    some ({ v with stage := .returned },
      m.setContext { m.context with lock := m.context.lock.releaseRead }, [.handlerEnded g])
  | .running g (.panic _) =>
    some ({ v with stage := .escaped },
      m.setContext { m.context with lock := m.context.lock.releaseRead }, [.handlerEnded g])
  | .plain (.ask o next) =>
    match v.perform m o with
    | .error f => some ({ v with stage := .faulted f }, m, [])
    | .ok (a, data, m, events) => some ({ v with data, stage := .plain (next a) }, m, events)
  | .plain (.ret _) => some ({ v with stage := .returned }, m, [])
  | .plain (.panic _) => some ({ v with stage := .escaped }, m, [])
  | .returned => none
  | .faulted _ => none
  | .escaped => none

/-- Whether module code is about to pause. -/
def atPause (v : Visit) : Bool :=
  match v.stage with
  | .running _ (.ask .pause _) => true
  | .plain (.ask .pause _) => true
  | _ => false

end Visit

end ModuleHost
