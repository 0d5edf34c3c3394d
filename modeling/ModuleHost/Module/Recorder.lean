import ModuleHost.Module.Script

/-!
# A host that records

A host made of fixed data, for looking at views alone: its answers are the bytes
it was given, and it keeps what a module writes. Header names are compared byte
by byte, and the first match counts.
-/
namespace ModuleHost

open Text Boundary

structure Recorder where
  method : Option Bytes := none
  uri : Option Bytes := none
  body : Option Bytes := none
  headers : List (Option Bytes × Option Bytes) := []
  status : UInt16 := 0
  /-- What storing a header gives. -/
  headerCode : Int := 0
  /-- The writes, newest first. -/
  writes : List HostCall := []
  deriving DecidableEq, Repr

namespace Recorder

def record (r : Recorder) (c : HostCall) : Recorder := { r with writes := c :: r.writes }

def answer : (c : HostCall) → Recorder → c.Answer × Recorder
  | .method, r => (r.method, r)
  | .uri, r => (r.uri, r)
  | .header name, r => ((r.headers.find? fun h => h.1 == name).bind (·.2), r)
  | .body, r => (r.body, r)
  | .setUri uri, r => ((), { r with uri }.record (.setUri uri))
  | .status, r => (r.status, r)
  | .setStatus code, r => ((), { r with status := code })
  | .setHeader name value, r => (r.headerCode, r.record (.setHeader name value))
  | .writeBody bytes, r => ((), r.record (.writeBody bytes))
  | .setTarget _, r => ((), r)

/-- Host callbacks go to the recorder; there is nothing else to answer. -/
def answerModule : (o : ModuleOp) → Recorder → o.Answer × Recorder
  | .host c, r => answer c r
  | .own (.note _), r => ((), r)
  | .own (.report _), r => ((), r)
  | .own (.print _), r => (.ok (), r)
  | .count, r => ((0 : Nat), r)
  | .stamps, r => ((false, false, none), r)
  | .canSetUri, r => (false, r)
  | .pause, r => ((), r)

/-- Performs one action on the views of this host. -/
def perform (r : Recorder) (a : Action) : Note × Recorder :=
  match Program.run (I := ModuleInterface) answerModule a.perform.lower r with
  | (.ok n, r) => (n, r)
  | (.error _, r) => (.nothing, r)

def performAll (r : Recorder) : List Action → List Note × Recorder
  | [] => ([], r)
  | a :: rest =>
    let (n, r) := r.perform a
    let (ns, r) := r.performAll rest
    (n :: ns, r)

end Recorder

/-- Which view is made of a handle. -/
inductive ViewKind where
  | request | proxy | response
  deriving DecidableEq, Repr

/-- Whether a handle makes the view; the fault if its stamp is not live. -/
def ViewKind.accepts (k : ViewKind) (h : Handles) : Except Fault Bool :=
  match k with
  | .request => requestView? h
  | .proxy => proxyView? h
  | .response => responseView? h

end ModuleHost
