import ModuleHost.Machine.Call
import ModuleHost.Machine.Opening

/-!
# The machine

A `System` holds the modules, the instances opened on them, one task per thread,
and the history of events, newest first. `System.step s t` lets thread `t` take
its next step; it gives none where the thread has to wait or has finished. A run
is any sequence of steps of any threads, with new threads started in between.
-/
namespace ModuleHost

open Boundary

/-- What a thread is doing. -/
inductive Task where
  | opening (o : Opening) (s : OpenStage)
  | calling (c : Call)
  | shutting (on : Nat) (s : ShutdownStage)
  /-- Gives an instance up for good, which shuts it down. -/
  | dropping (on : Nat) (s : ShutdownStage)
  /-- Calls a lifecycle entry point past any instance. -/
  | hooking (module : Nat) (h : Hook) (s : HookStage)
  /-- Calls a request entry point past any instance. -/
  | visiting (module : Nat) (v : Visit)

/-- What a finished task comes to. -/
inductive Report where
  | opened (r : Except HostError Nat)
  | called (r : Except HostError Unit) (proxy : Bool) (data : CallData)
  | shutDown (o : ShutdownOutcome)
  | dropped
  | hooked (h : Hook) (code : Int)
  | visited

namespace Task

def report? : Task → Option Report
  | .opening _ (.done r) => some (.opened r)
  | .calling c =>
    match c.stage with
    | .done r => some (.called r c.visit.proxy c.visit.data)
    | _ => none
  | .shutting _ (.done o) => some (.shutDown o)
  | .dropping _ (.done _) => some .dropped
  | .hooking _ h (.returned code) => some (.hooked h code)
  | .visiting _ v =>
    match v.stage with
    | .returned => some .visited
    | _ => none
  | _ => none

/-- Whether the thread is inside module code that is about to pause. -/
def atPause : Task → Bool
  | .calling c => (c.stage matches .inside) && c.visit.atPause
  | .visiting _ v => v.atPause
  | _ => false

end Task

/-- One line of the history: what happened, on which thread, in which module, and for which
instance. -/
structure Happening where
  thread : Nat
  module : Nat
  on : Option Nat
  event : Event
  deriving DecidableEq, Repr

structure System where
  modules : List Module := []
  instances : List Instance := []
  threads : List Task := []
  history : List Happening := []

namespace System

def addModule (s : System) (m : Module) : System := { s with modules := s.modules ++ [m] }

/-- Starts a new thread; its number is the count of threads before. -/
def spawn (s : System) (k : Task) : System := { s with threads := s.threads ++ [k] }

/-- Lets a thread that has finished begin another task. -/
def assign (s : System) (t : Nat) (k : Task) : System := { s with threads := s.threads.set t k }

def record (s : System) (t module : Nat) (on : Option Nat) (events : List Event) : System :=
  { s with history := events.foldl (fun h e => ⟨t, module, on, e⟩ :: h) s.history }

/-- A step that touches one module only. -/
def stepModule (s : System) (t module : Nat)
    (f : Module → Option (Task × Module × List Event)) : Option System := do
  let m ← s.modules[module]?
  let (k, m, events) ← f m
  return { s with modules := s.modules.set module m, threads := s.threads.set t k }.record t module
    none events

/-- A step that touches one instance and its module. -/
def stepInstance (s : System) (t on : Nat)
    (f : Instance → Module → Option (Task × Instance × Module × List Event)) : Option System := do
  let i ← s.instances[on]?
  let m ← s.modules[i.module]?
  let (k, i', m, events) ← f i m
  return { s with modules := s.modules.set i.module m, instances := s.instances.set on i',
                  threads := s.threads.set t k }.record t i.module (some on) events

def step (s : System) (t : Nat) : Option System := do
  match ← s.threads[t]? with
  | .opening o stage =>
    match stage.on? with
    | some on =>
      s.stepInstance t on fun i m =>
        (Opening.stepLate i m stage).map fun (st, i, m, events) => (.opening o st, i, m, events)
    | none =>
      let m ← s.modules[o.module]?
      let (st, i?, m, events) ← o.stepEarly s.instances.length m stage
      return { s with modules := s.modules.set o.module m,
                      instances := s.instances ++ i?.toList,
                      threads := s.threads.set t (.opening o st) }.record t o.module none events
  | .calling c =>
    s.stepInstance t c.on fun i m =>
      (c.step i m).map fun (c, i, m, events) => (.calling c, i, m, events)
  | .shutting on stage =>
    s.stepInstance t on fun i m =>
      (stage.step i m).map fun (st, i, m, events) => (.shutting on st, i, m, events)
  | .dropping on stage =>
    s.stepInstance t on fun i m =>
      (stage.step i m).map fun (st, i, m, events) => (.dropping on st, i, m, events)
  | .hooking module h stage =>
    s.stepModule t module fun m =>
      (stage.step h m).map fun (st, m, events) => (.hooking module h st, m, events)
  | .visiting module v =>
    s.stepModule t module fun m =>
      (v.step m).map fun (v, m, events) => (.visiting module v, m, events)

def report? (s : System) (t : Nat) : Option Report := s.threads[t]?.bind Task.report?

/-- How far `run` lets a thread go. -/
inductive Until where
  /-- Until it has finished or has to wait. -/
  | rest
  /-- Also until its module code pauses. -/
  | pause
  deriving DecidableEq

/-- Lets one thread take steps, at most `fuel` of them. -/
def run (u : Until) (t : Nat) : (fuel : Nat) → System → System
  | 0, s => s
  | fuel + 1, s =>
    if u = .pause && (s.threads[t]?.map Task.atPause).getD false then s
    else match s.step t with
      | none => s
      | some s => run u t fuel s

end System

end ModuleHost
