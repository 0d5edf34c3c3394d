import ModuleHost.Session.Step

/-!
# Playing a loader session
-/
namespace ModuleHost.Session

open Boundary Scenario File

/-- A thread that outlives the step that started it, and the instance that it holds. -/
structure Background where
  thread : Nat
  on : Nat
  finalize : Option UInt16 := none
  deriving DecidableEq, Repr

structure World where
  host : Host
  loader : Option Loader
  /-- How the loader is made anew. -/
  fresh : Loader
  keys : List (String × Nat) := []
  call : Option Background := none
  closing : Option Background := none
  /-- The threads of the current step. -/
  foreground : List Nat := []
  /-- Enough steps for any thread of the session. -/
  fuel : Nat

namespace World

def system (w : World) : System := w.host.system

def withSystem (w : World) (s : System) : World := { w with host := { w.host with system := s } }

/-- Starts a thread and lets it run. -/
def launch (w : World) (u : System.Until) (k : Task) : World × Nat :=
  let t := w.system.threads.length
  (w.withSystem ((w.system.spawn k).run u t w.fuel), t)

/-- Starts a thread of the current step and lets it run to its end. -/
def perform (w : World) (k : Task) : World × Option Report :=
  let (w, t) := w.launch .rest k
  ({ w with foreground := w.foreground ++ [t] }, w.system.report? t)

/-- Whether anybody holds a reference to an instance. -/
def isHeld (w : World) (n : Nat) : Bool :=
  w.keys.any (·.2 == n) || w.loader.any (fun l => l.registry.any (·.2 == n))
    || (w.call.toList ++ w.closing.toList).any (·.on == n)

/-- Gives an instance up if nobody holds a reference to it. -/
def release (w : World) (n : Nat) : World :=
  if w.isHeld n then w else (w.perform (.dropping n .arriving)).1

/-- Puts an instance under a key; the one that was there loses a reference. -/
def bind (w : World) (on : String) (n : Nat) : World :=
  let old := w.keys.lookup on
  let w := { w with keys := (on, n) :: w.keys.filter (·.1 != on) }
  old.elim w w.release

def instanceAnswer (w : World) (n : Nat) : Answer := .instance w.system.instances[n]?

/-- Runs an opening: the number of the instance, or the refusal. -/
def runOpening (w : World) (o : Opening) : World × Except HostError (Option Nat) :=
  let (w, r) := w.perform (.opening o .arriving)
  (w, match r with
    | some (.opened (.error e)) => .error e
    | some (.opened (.ok n)) => .ok (some n)
    | _ => .ok none)

def load (w : World) (l : Loader) (name : String) (on : Option String) : World × Answer :=
  match l.begin w.host name with
  | .error e => (w, .refused e)
  | .ok (host, todo) =>
    match { w with host }.runOpening todo.opening with
    | (w, .error e) => (w, .refused e)
    | (w, .ok none) => (w, .stuck)
    | (w, .ok (some n)) =>
      let replaced := l.registry.lookup todo.key
      let w := { w with loader := some (l.register todo.key n) }
      let w := replaced.elim w w.release
      let w := on.elim w fun on => w.bind on n
      (w, w.instanceAnswer n)

/-- Shuts an instance down that has been taken out of the registry. -/
def retire (w : World) (n : Nat) : World × Option ShutdownOutcome :=
  let (w, r) := w.perform (.shutting n .arriving)
  (w.release n, match r with
    | some (.shutDown o) => some o
    | _ => none)

/-- Takes every instance out of the registry and shuts it down. -/
def clear (w : World) (l : Loader) (next : Option Loader) : World :=
  (l.registry.map (·.2)).foldl (fun w n => (w.retire n).1) { w with loader := next }

def onKey (w : World) (on : String) (f : Nat → World × Answer) : World × Answer :=
  (w.keys.lookup on).elim (w, .stuck) f

def finish (w : World) (k : Task) (finalize : Option UInt16 := none) : World × Answer :=
  let (w, r) := w.perform k
  (w, (r.bind (outcome? finalize)).elim .stuck .finished)

def withLoader (w : World) (f : Loader → World × Answer) : World × Answer :=
  w.loader.elim (w, .stuck) f

/-- Lets a background thread run to its end: what it comes to. -/
def endBackground (w : World) (b : Background) : World × Option Outcome :=
  let w := w.withSystem (w.system.run .rest b.thread w.fuel)
  (w, (w.system.report? b.thread).bind (outcome? b.finalize))

def inspect (w : World) (path : String) : World × Answer :=
  match w.host.openLibrary path with
  | .error e => (w, .refused e)
  | .ok (host, i, exports) =>
    let w := { w with host }
    if exports.abiVersion then
      match w.perform (.hooking i.module .probe .entering) with
      | (w, some (.hooked _ v)) => (w, .inspected path exports (some v))
      | (w, _) => (w, .stuck)
    else (w, .inspected path exports none)

def step (w : World) : Step → World × Answer
  | .find name => w.withLoader fun l => (w, .found (l.find? w.host.tree name))
  | .load name on => w.withLoader fun l => w.load l name on
  | .opening path on =>
    match w.host.prepare path false with
    | .error e => (w, .refused e)
    | .ok (host, o) =>
      match { w with host }.runOpening o with
      | (w, .error e) => (w, .refused e)
      | (w, .ok none) => (w, .stuck)
      | (w, .ok (some n)) => (w.bind on n, w.instanceAnswer n)
  | .get name => w.withLoader fun l =>
    (w, (l.get? w.system name).elim (.instance none) w.instanceAnswer)
  | .unload name => w.withLoader fun l =>
    match l.entry? w.system name with
    | none => (w, .unloaded none)
    | some (key, n) =>
      let (w, o) := { w with loader := some (l.forget key) }.retire n
      (w, .unloaded o)
  | .unloadAll => w.withLoader fun l => (w.clear l (some { l with registry := [] }), .nothing)
  | .searchPaths => w.withLoader fun l => (w, .paths l.searchPaths)
  | .addSearchPath dir =>
    w.withLoader fun l => ({ w with loader := some (l.addSearchPath dir) }, .nothing)
  | .inspect path => w.inspect path
  | .call c => w.onKey c.on fun n => w.finish (c.task n) c.finalize
  | .shutdown on => w.onKey on fun n => w.finish (.shutting n .arriving)
  | .describe on => w.onKey on fun n =>
    (w, (w.system.instances[n]?).elim .stuck fun i => .text i.describe)
  | .drop on => w.onKey on fun n =>
    ({ w with keys := w.keys.filter (·.1 != on) }.release n, .nothing)
  | .dropLoader => (w.loader.elim w fun l => w.clear l none, .nothing)
  | .newLoader => (w.loader.elim { w with loader := some w.fresh } fun l => w.clear l (some w.fresh),
      .nothing)
  | .change f => ({ w with host := { w.host with tree := f w.host.tree } }, .nothing)
  | .hold c => w.onKey c.on fun n =>
    let (w, thread) := w.launch .pause (c.task n)
    ({ w with call := some { thread, on := n, finalize := c.finalize } }, .nothing)
  | .shutdownAside on => w.onKey on fun n =>
    let (w, thread) := w.launch .rest (.shutting n .arriving)
    ({ w with closing := some { thread, on := n } }, .nothing)
  | .release =>
    let (w, call) := w.call.elim (w, none) w.endBackground
    let (w, shutdown) := w.closing.elim (w, none) w.endBackground
    let ended := w.call.toList ++ w.closing.toList
    let mine := w.foreground
    let w := ended.foldl (fun w b => w.release b.on) { w with call := none, closing := none }
    ({ w with foreground := mine }, .released call shutdown)

/-- Plays one step and looks at everything afterwards. -/
def play (w : World) (s : Step) : World × StepAnswer :=
  let mark := w.system.history.length
  let (w, answer) := { w with foreground := [] }.step s
  let new := (w.system.history.take (w.system.history.length - mark)).reverse
  let mine := (new.filter fun h => w.foreground.contains h.thread).map (·.event)
  (w, { answer, log := (notices mine).filter fun n => !n.isModules
        instances := w.keys.filterMap fun (key, n) => (w.system.instances[n]?).map (key, ·.gate)
        loaded := w.loader.map fun l => l.loaded w.system
        output := printed (new.map (·.event)) })

def playAll (w : World) : List Step → List StepAnswer
  | [] => []
  | s :: rest =>
    let (w, a) := w.play s
    a :: w.playAll rest

end World

/-- A bound on the steps of one thread, for modules whose programs are short. -/
def fuel : Nat := 1000

/-- Plays the steps on a tree, with a loader. -/
def play (host : Host) (loader fresh : Loader) (steps : List Step) : List StepAnswer :=
  World.playAll { host, loader := some loader, fresh, fuel } steps

end ModuleHost.Session
