import ModuleHost.Machine.System

/-!
# Worker pools

A pool sends one request again and again through one instance. Its workers share a
count of the requests taken: a worker takes the next number, stops if all requests
have been taken, and otherwise makes a call on its own thread and delivers what it
came to. `Pool.step p w` lets worker `w` take its next step.
-/
namespace ModuleHost.Cli

/-- What one call came to. -/
structure Delivery where
  response : Response
  /-- The URI after the call. -/
  uri : String
  /-- The target address that a proxy call chose. -/
  target : Option String
  deriving DecidableEq, Repr

inductive WorkerStage where
  | taking
  | calling
  | finished
  deriving DecidableEq, Repr

structure Worker where
  /-- The thread of its calls, once it has made one. -/
  thread : Option Nat := none
  stage : WorkerStage := .taking
  deriving DecidableEq, Repr

structure Pool where
  system : System
  /-- The instance called. -/
  on : Nat
  proxy : Bool
  request : Request
  /-- The status of responses that nobody gave one. -/
  defaultStatus : UInt16
  /-- How many requests are sent. -/
  total : Nat
  /-- How often a worker has taken a number. -/
  taken : Nat := 0
  workers : List Worker
  /-- What has arrived, the newest first. -/
  delivered : List (Except HostError Delivery) := []

namespace Pool

/-- The number of workers for a number of requests. -/
def workerCount (concurrency total : Nat) : Nat := min (max concurrency 1) total

def start (system : System) (on : Nat) (proxy : Bool) (request : Request) (defaultStatus : UInt16)
    (repetitions concurrency : Nat) : Pool :=
  let total := max repetitions 1
  { system, on, proxy, request, defaultStatus, total,
    workers := List.replicate (workerCount concurrency total) {} }

def task (p : Pool) : Task := .calling (Call.start p.on p.proxy p.request {} {})

/-- What a finished call delivers. -/
def delivery (p : Pool) (r : Except HostError Unit) (data : Boundary.CallData) :
    Except HostError Delivery :=
  r.map fun _ =>
    { response := data.response.finalize p.defaultStatus, uri := data.request.uri,
      target := if p.proxy then data.target else none }

/-- A worker begins a call, on its own thread. -/
def beginCall (p : Pool) (w : Nat) (worker : Worker) : Pool :=
  match worker.thread with
  | some t =>
    { p with system := p.system.assign t p.task,
             workers := p.workers.set w { worker with stage := .calling } }
  | none =>
    { p with system := p.system.spawn p.task,
             workers := p.workers.set w { thread := some p.system.threads.length, stage := .calling } }

def step (p : Pool) (w : Nat) : Option Pool := do
  let worker ← p.workers[w]?
  match worker.stage with
  | .taking =>
    let p' := { p with taken := p.taken + 1 }
    if p.taken < p.total then return p'.beginCall w worker
    else return { p' with workers := p.workers.set w { worker with stage := .finished } }
  | .calling =>
    let t ← worker.thread
    match p.system.report? t with
    | some (.called r _ data) =>
      return { p with delivered := p.delivery r data :: p.delivered,
                      workers := p.workers.set w { worker with stage := .taking } }
    | _ => (p.system.step t).map fun system => { p with system }
  | .finished => none

/-- Lets the first worker that can take a step do so, at most `fuel` times. -/
def run : (fuel : Nat) → Pool → Pool
  | 0, p => p
  | fuel + 1, p =>
    match (List.range p.workers.length).findSome? p.step with
    | none => p
    | some p => run fuel p

/-- All deliveries in the order of arrival, or the first error among them. -/
def outcome (p : Pool) : Except HostError (List Delivery) := p.delivered.reverse.mapM id

end Pool

end ModuleHost.Cli
