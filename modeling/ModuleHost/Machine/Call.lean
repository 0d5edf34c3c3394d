import ModuleHost.Instance.Error
import ModuleHost.Instance.Gate
import ModuleHost.Machine.Visit

/-!
# Calling through an instance

A call is admitted by the gate, given fresh handles, and visits the module's
entry point. When the entry has returned, the handles are retired; only then is
the call counted as finished. A proxy call on a module without that entry point
is refused before the gate is asked.
-/
namespace ModuleHost

open Boundary

inductive CallStage where
  | arriving
  | inside
  /-- The entry has returned; the handles are still live. -/
  | retiring
  /-- The handles are retired; the call still counts as inside. -/
  | leaving
  | done (r : Except HostError Unit)
  | escaped

structure Call where
  /-- The instance called. -/
  on : Nat
  visit : Visit
  stage : CallStage := .arriving

namespace Call

def start (on : Nat) (proxy : Bool) (request : Request) (response : Response)
    (errand : Errand) : Call :=
  { on, visit := { proxy, errand, data := { request, response } } }

/-- The handles that a call gets. -/
def handles (proxy : Bool) : Handles := if proxy then Handles.forProxy else Handles.forRequest

def arrive (i : Instance) (c : Call) : Call × Instance × List Event :=
  if c.visit.proxy && !i.exports.proxy then
    ({ c with stage := .done (.error (.entryPointMissing i.name .handleProxyRequest)) }, i, [])
  else
    match i.gate.admit? with
    | some g =>
      ({ c with stage := .inside,
                visit := { c.visit with handles := handles c.visit.proxy, stage := .entering } },
        { i with gate := g }, [.admitted])
    | none =>
      ({ c with stage := .done (.error (.shuttingDown i.name)) }, i,
        [.refused, .notice (.callRefused i.name i.gate.state)])

def step (i : Instance) (m : Module) (c : Call) :
    Option (Call × Instance × Module × List Event) :=
  match c.stage with
  | .arriving =>
    let (c, i, events) := c.arrive i
    some (c, i, m, events)
  | .inside =>
    match c.visit.stage with
    | .returned => some ({ c with stage := .retiring }, i, m, [.left c.visit.entry])
    | .faulted _ | .escaped => some ({ c with stage := .escaped }, i, m, [])
    | _ =>
      (c.visit.step m).map fun (v, m, events) => ({ c with visit := v }, i, m, events)
  | .retiring =>
    some ({ c with stage := .leaving,
                   visit := { c.visit with handles := c.visit.handles.retire,
                                           given := c.visit.given.retire } }, i, m, [])
  | .leaving =>
    some ({ c with stage := .done (.ok ()) }, { i with gate := i.gate.release }, m, [.released])
  | .done _ => none
  | .escaped => none

end Call

end ModuleHost
