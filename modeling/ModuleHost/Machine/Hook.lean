import ModuleHost.Machine.Context
import ModuleHost.Machine.Event

/-!
# The lifecycle entry points

Positions of a thread inside `ModuleAbiVersion`, `OnLoad` or `OnUnload`, and the
step from one to the next. `HookStage.step` gives none at a position that has to
wait and at the two last ones.

The load and unload entries of a handler module hold the lock for writing from
`draining` on. Loading keeps a live value; otherwise it builds one, and a failed
start leaves the slot fresh. Unloading takes the value out, shuts it down and
drops it, whatever either of the two comes to.

What a callback came to is let go outside of its guard. A panic there leaves the
entry point, and gives the lock back on its way; the value that was shut down is
dropped on the way too.
-/
namespace ModuleHost

open Boundary

inductive Hook where
  | probe | load | unload
  deriving DecidableEq, Repr

def Hook.entry : Hook → EntryPoint
  | .probe => .moduleAbiVersion
  | .load => .onLoad
  | .unload => .onUnload

inductive HookStage where
  | entering
  /-- Wants the lock for writing. -/
  | claiming
  /-- Has claimed the lock and waits for its readers to leave. -/
  | draining
  | initializing (p : SelfProgram (Except String Unit))
  | closing (v : HandlerValue) (p : SelfProgram (Except String Unit))
  | dropping (v : HandlerValue) (p : SelfProgram Unit)
  /-- Drops the value while a panic is on its way out. -/
  | unwinding (v : HandlerValue) (p : SelfProgram Unit)
  /-- Code without a lock; it ends in the entry's result. -/
  | plain (p : SelfProgram Int)
  | returned (code : Int)
  /-- A panic left the entry point. -/
  | escaped

/-- What an operation of the module's own comes to. -/
def SelfOp.perform (m : Module) : (o : SelfOp) → o.Answer × Module × List Event
  | .note n => ((), m, [.note n])
  | .report n => ((), m, [.notice n])
  | .print line =>
    match m.print with
    | (none, m) => (Except.ok (), m, [.printed (line ++ "\n")])
    | (some e, m) => (Except.error e, m, [])

namespace SelfOp

variable (m : Module) (o : SelfOp)

/-- An operation of its own leaves all of a module but the number of its prints. -/
theorem perform_module : ∃ n, (perform m o).2.1 = { m with prints := n } := by
  cases o with
  | note n | report n => exact ⟨m.prints, rfl⟩
  | print line =>
    refine ⟨m.prints + 1, ?_⟩
    cases h : m.sink m.prints <;> simp only [perform, Module.print, h]

@[simp] theorem perform_context : (perform m o).2.1.context = m.context := by
  obtain ⟨n, same⟩ := perform_module m o
  rw [same]

@[simp] theorem perform_code : (perform m o).2.1.code = m.code := by
  obtain ⟨n, same⟩ := perform_module m o
  rw [same]

end SelfOp

namespace Context

/-- Counts a start that is about to run. -/
def beginStart (c : Context) : Context := { c with starts := c.starts + 1 }

/-- The value of a new generation. -/
def build (c : Context) : HandlerValue × Context :=
  (⟨c.generation + 1, 0⟩, { c with generation := c.generation + 1 })

/-- Ends a start: a value built fills the slot, a failure leaves it fresh; the lock is free. -/
def finishStart (c : Context) : Except Notice Unit → Context × List Event
  | .ok _ =>
    let (v, c) := c.build
    ({ c with slot := .live v, lock := c.lock.releaseWrite },
      [.built v.generation, .notice (.contextInitialized v.generation)])
  | .error n => ({ c with slot := .fresh, lock := c.lock.releaseWrite }, [.startFailed, .notice n])

def releaseWrite (c : Context) : Context := { c with lock := c.lock.releaseWrite }

/-- Ends a start, or breaks its end off where what it came to is not let go quietly. -/
def endStart (c : Context) (r : Except Notice Unit) : Parting → Context × List Event
  | .quiet => c.finishStart r
  | .told => (c.releaseWrite, match r with | .ok _ => [] | .error n => [.notice n])
  | .untold => (c.releaseWrite, [])

end Context

/-- How a start's result is told. -/
def startNotice : Upshot → Except Notice Unit
  | .ok (.ok _) => .ok ()
  | .ok (.error e) => .error (.initFailed e)
  | .error p => .error (.initPanicked p.message)

def loadCode : Upshot → Int
  | .ok (.ok _) => loadOk
  | _ => loadFailed

namespace HookStage

/-- The first position inside the entry of a module. -/
def start (hook : Hook) (m : Module) : HookStage :=
  match hook, m.code with
  | .probe, _ => .plain (m.probe.bind fun v => .ret v.toNat)
  | .load, .entries e => .plain e.onLoad
  | .unload, .entries e => .plain ((e.onUnload m.tally).bind fun _ => .ret 0)
  | _, .handler .. => .claiming

/-- What the thread does once it has the lock for itself. -/
def locked (hook : Hook) (m : Module) (h : Handler) : HookStage × Module × List Event :=
  let c := m.context
  match hook, c.slot with
  | .load, .live _ => (.returned loadOk, m.setContext c.releaseWrite, [.notice .loadOnLive])
  | .load, _ =>
    (.initializing (h.init c.starts), m.setContext c.beginStart, [.startBegun c.starts])
  | _, .live v =>
    (.closing v (h.shutdown v.seen), m.setContext { c with slot := .tornDown },
      [.shutdownBegun v.generation])
  | _, .fresh =>
    (.returned 0, m.setContext { c.releaseWrite with slot := .tornDown }, [.notice .unloadFresh])
  | _, .tornDown => (.returned 0, m.setContext c.releaseWrite, [.notice .unloadTwice])

/-- How the end of a handler's shutdown is told. -/
def shutdownNotice (generation : Nat) : Upshot → Notice
  | .ok (.ok _) => .tornDown generation
  | .ok (.error e) => .shutdownFailed generation e
  | .error p => .shutdownPanicked generation p.message

def step (hook : Hook) (m : Module) : HookStage → Option (HookStage × Module × List Event)
  | .entering => some (start hook m, m, [.entered hook.entry])
  | .claiming =>
    m.context.lock.claim?.map fun l => (.draining, m.setContext { m.context with lock := l }, [])
  | .draining =>
    match m.code with
    | .handler h _ => if m.context.lock.readers = 0 then some (locked hook m h) else none
    | .entries _ => none
  | .initializing (.ask o next) =>
    let (a, m, events) := SelfOp.perform m o
    some (.initializing (next a), m, events)
  | .initializing (.ret r) => some (step.afterStart m (.ok r))
  | .initializing (.panic p) => some (step.afterStart m (.error p))
  | .closing v (.ask o next) =>
    let (a, m, events) := SelfOp.perform m o
    some (.closing v (next a), m, events)
  | .closing v (.ret r) => some (step.afterClose v m (.ok r))
  | .closing v (.panic p) => some (step.afterClose v m (.error p))
  | .dropping v (.ask o next) =>
    let (a, m, events) := SelfOp.perform m o
    some (.dropping v (next a), m, events)
  | .dropping v (.ret _) =>
    some (.returned 0, m.setContext m.context.releaseWrite, [.dropped v.generation])
  | .dropping v (.panic p) =>
    some (step.afterDrop v m p)
  | .unwinding v (.ask o next) =>
    let (a, m, events) := SelfOp.perform m o
    some (.unwinding v (next a), m, events)
  | .unwinding v (.ret _) | .unwinding v (.panic _) =>
    some (.escaped, m.setContext m.context.releaseWrite, [.dropped v.generation])
  | .plain (.ask o next) =>
    let (a, m, events) := SelfOp.perform m o
    some (.plain (next a), m, events)
  | .plain (.ret code) => some (.returned code, m, [])
  | .plain (.panic _) => some (.escaped, m, [])
  | .returned _ => none
  | .escaped => none
where
  /-- The end of a start. -/
  afterStart (m : Module) (r : Upshot) : HookStage × Module × List Event :=
    let parting := m.drops.parting r
    let (c, events) := m.context.endStart (startNotice r) parting
    (if parting = .quiet then .returned (loadCode r) else .escaped, m.setContext c, events)
  destructor (m : Module) : SelfProgram Unit :=
    match m.code with
    | .handler h _ => h.drop
    | .entries _ => .ret ()
  /-- The value's destructor runs after its shutdown, whatever that came to. -/
  afterClose (v : HandlerValue) (m : Module) (r : Upshot) : HookStage × Module × List Event :=
    let notice := Event.notice (shutdownNotice v.generation r)
    match m.drops.parting r with
    | .quiet => (.dropping v (destructor m), m, [notice])
    | .told => (.unwinding v (destructor m), m, [notice])
    | .untold => (.unwinding v (destructor m), m, [])
  /-- The end of a destructor that panicked. It is told once what the panic carried is gone. -/
  afterDrop (v : HandlerValue) (m : Module) (p : Payload) : HookStage × Module × List Event :=
    let m' := m.setContext m.context.releaseWrite
    if m.drops.payload p then (.escaped, m', [.dropped v.generation])
    else (.returned 0, m', [.dropped v.generation, .notice (.dropPanicked v.generation)])

end HookStage

end ModuleHost
