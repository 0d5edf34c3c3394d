import ModuleHost.Scenario.Step

/-!
# Playing a scenario

The player lets one thread run at a time. After each step it lets every
background thread that nothing holds run as far as it comes.
-/
namespace ModuleHost.Scenario

open Boundary

/-- A thread that outlives the step that started it. -/
structure Background where
  id : String
  thread : Nat
  /-- The key of the instance that a call is inside of. -/
  on : Option String := none
  /-- The module whose hook the thread runs. -/
  hook : Option Nat := none
  /-- Whether the thread is kept at its pause. -/
  held : Bool := false
  finalize : Option UInt16 := none
  deriving Repr

structure World where
  system : System
  keys : List (String × Nat) := []
  background : List Background := []
  /-- The threads of the current step. -/
  foreground : List Nat := []
  /-- Enough steps for any thread of the scenario. -/
  fuel : Nat

namespace World

def instance? (w : World) (on : String) : Option (Nat × Instance) := do
  let n ← w.keys.lookup on
  let i ← w.system.instances[n]?
  return (n, i)

def background? (w : World) (id : String) : Option Background :=
  w.background.find? fun b => b.id == id

/-- Starts a thread and lets it run. -/
def launch (w : World) (u : System.Until) (k : Task) : World × Nat :=
  let t := w.system.threads.length
  ({ w with system := (w.system.spawn k).run u t w.fuel }, t)

/-- Starts a thread of the current step and lets it run to its end. -/
def perform (w : World) (k : Task) : World × Nat :=
  let (w, t) := w.launch .rest k
  ({ w with foreground := w.foreground ++ [t] }, t)

def performed (w : World) (k : Task) (finalize : Option UInt16 := none) : World × Answer :=
  let (w, t) := w.perform k
  (w, match (w.system.report? t).bind (outcome? finalize) with
    | some o => .finished o
    | none => .stuck)

def finished (w : World) (b : Background) : Bool := (w.system.report? b.thread).isSome

/-- Lets the background threads that nothing holds run, once each. -/
def stir (w : World) : World :=
  w.background.foldl
    (fun w b => if b.held then w else { w with system := w.system.run .rest b.thread w.fuel }) w

def settle (w : World) : World := (List.range (w.background.length + 1)).foldl (fun w _ => w.stir) w

/-- What a background thread has to tell once it has finished. -/
def told? (w : World) (b : Background) : Option Told := do
  let o ← (← w.system.report? b.thread) |> outcome? b.finalize
  let events := (w.system.history.reverse.filter (·.thread == b.thread)).map (·.event)
  return { outcome := o, trace := notes events, log := notices events }

def answerTold (w : World) (b : Background) (f : Told → Answer) : Answer :=
  (w.told? b).elim .stuck f

/-- Whether a call is kept inside the instance under this key. -/
def hasHeld (w : World) (on : String) : Bool :=
  w.background.any fun b => b.on == some on && b.held

def open_ (w : World) (on : String) (o : Opening) : World × Answer :=
  let (w, t) := w.perform (.opening o .arriving)
  match w.system.report? t with
  | some (.opened (.error e)) => (w, .refused e)
  | some (.opened (.ok n)) =>
    match w.system.instances[n]? with
    | none => (w, .stuck)
    | some i =>
      let old := w.keys.lookup on
      let w := { w with keys := (on, n) :: w.keys.filter (·.1 != on) }
      match old with
      | none => (w, .opened i)
      | some old => ((w.perform (.dropping old .arriving)).1, .opened i)
  | _ => (w, .stuck)

/-- Lets a held call go on to its end. -/
def free (w : World) (b : Background) : World :=
  { w with background := w.background.map fun c => if c.id == b.id then { c with held := false } else c,
           system := w.system.run .rest b.thread w.fuel }

/-- Starts several calls on threads of their own, each held at its pause. -/
def crowd (w : World) (n : Nat) (c : CallSpec) : Nat → World × List Nat
  | 0 => (w, [])
  | k + 1 =>
    let (w, ts) := crowd w n c k
    let (w, t) := w.launch .pause (c.task n)
    (w, t :: ts)

def step (w : World) : Step → World × Answer
  | .opening on name module exports requireAbi =>
    w.open_ on { name, module, exports, requireAbi }
  | .call c =>
    match w.instance? c.on with
    | none => (w, .stuck)
    | some (n, _) => w.performed (c.task n) c.finalize
  | .shutdown on =>
    match w.instance? on with
    | none => (w, .stuck)
    | some (n, _) =>
      if w.hasHeld on then (w, .wouldBlock) else w.performed (.shutting n .arriving)
  | .drop on =>
    match w.instance? on with
    | none => (w, .stuck)
    | some (n, _) =>
      if w.hasHeld on then (w, .wouldBlock)
      else { w with keys := w.keys.filter (·.1 != on) }.performed (.dropping n .arriving)
  | .describe on =>
    (w, match w.instance? on with
      | none => .stuck
      | some (_, i) => .text i.describe)
  | .isLive on =>
    (w, match w.instance? on with
      | none => .stuck
      | some (_, i) => .flag (i.gate.state == .live))
  | .hook module h => w.performed (.hooking module h .entering)
  | .nullCall module proxy =>
    w.performed (.visiting module { proxy, data := { request := {}, response := {} } })
  | .hold id c =>
    match w.instance? c.on with
    | none => (w, .stuck)
    | some (n, _) =>
      let (w, t) := w.launch .pause (c.task n)
      let b : Background :=
        { id, thread := t, on := some c.on, finalize := c.finalize,
          held := (w.system.report? t).isNone }
      ({ w with background := w.background ++ [b] },
        if b.held then .held else w.answerTold b .told)
  | .release id =>
    match w.background? id with
    | none => (w, .stuck)
    | some b =>
      let w := w.free b
      (w, w.answerTold b (.released (b.on.getD "")))
  | .shutdownAside on id =>
    match w.instance? on with
    | none => (w, .stuck)
    | some (n, _) =>
      let (w, t) := w.launch .rest (.shutting n .arriving)
      let b : Background := { id, thread := t }
      let w := { w with background := w.background ++ [b] }
      (w, .blocked (!w.finished b && w.hasHeld on))
  | .hookAside module h id =>
    let (w, t) := w.launch .rest (.hooking module h .entering)
    let b : Background := { id, thread := t, hook := some module }
    let w := { w with background := w.background ++ [b] }
    (w, .blocked (!w.finished b))
  | .join id =>
    match w.background? id with
    | none => (w, .stuck)
    | some b => (w, w.answerTold b .told)
  | .burst on n errand =>
    match w.instance? on with
    | none => (w, .stuck)
    | some (k, _) =>
      let (w, ts) := w.crowd k { on, request := Request.new "GET" "/", errand } n
      match w.system.instances[k]? with
      | none => (w, .stuck)
      | some i =>
        let w := ts.reverse.foldl (fun w t => { w with system := w.system.run .rest t w.fuel }) w
        (w, .burst i.gate (ts.filterMap fun t => (w.system.report? t).bind (outcome? none)))

def moduleView (w : World) (n : Nat) (m : Module) : ModuleView :=
  if !m.isHandler then .noContext
  else if w.background.any fun b => b.hook == some n && !w.finished b then .locked
  else .seen m.context.phase m.context.generation m.context.calls

/-- Plays one step and looks at everything afterwards. -/
def play (w : World) (s : Step) : World × StepAnswer :=
  let mark := w.system.history.length
  let (w, answer) := { w with foreground := [] }.step s
  let w := w.settle
  let new := (w.system.history.take (w.system.history.length - mark)).reverse
  let mine := (new.filter fun h => w.foreground.contains h.thread).map (·.event)
  let output (n : Nat) : String := printed ((new.filter (·.module = n)).map (·.event))
  (w, { answer, trace := notes mine, log := notices mine
        instances := w.keys.filterMap fun (key, n) => (w.system.instances[n]?).map (key, ·.gate)
        modules := (w.system.modules.zipIdx).map fun (m, n) => w.moduleView n m
        output := (List.range w.system.modules.length).map output })

def playAll (w : World) : List Step → List StepAnswer
  | [] => []
  | s :: rest =>
    let (w, a) := w.play s
    a :: w.playAll rest

end World

/-- The actions of a step. -/
def Step.errand : Step → Errand
  | .call c | .hold _ c => c.errand
  | .burst _ _ e => e
  | _ => {}

/-- A bound on the steps of one thread: each action takes a few, all else is fixed. -/
def fuel (steps : List Step) : Nat :=
  steps.foldl (fun n s => n + 8 * (s.errand.actions.length + s.errand.rawActions.length)) 200

/-- Plays the steps on fresh modules. -/
def play (modules : List ModuleSpec) (steps : List Step) : List StepAnswer :=
  World.playAll { system := { modules := modules.map ModuleSpec.toModule }, fuel := fuel steps } steps

end ModuleHost.Scenario
