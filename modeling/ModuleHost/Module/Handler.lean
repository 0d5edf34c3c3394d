import ModuleHost.Module.View

/-!
# Module code

A module is written in one of two ways. A `Handler` is a set of callbacks over
views: build a value, handle a request, choose a target, shut the value down,
drop it. `Entries` are entry points that use the host callbacks directly.

An `Errand` is what a caller asks of module code that takes orders; other code
ignores it.

`Handler.guarded` is what one request entry runs under the module's lock: the
handler's program with its panics caught. A panic is reported and leaves status
500 where the response has none. What it carried is let go outside of the guard,
so where its destructor panics, nothing catches that.
-/
namespace ModuleHost

open Text Boundary

/-- One order to a scripted handler. -/
inductive Action where
  | method | uri | header (name : String) | body | bodyText
  | count
  | setUri (uri : String)
  | target (address : Option String)
  | status (code : UInt16) | getStatus
  | setHeader (name value : String)
  | write (bytes : Bytes) | writeText (text : String)
  | pause
  | panic (p : Payload)
  deriving DecidableEq, Repr

/-- One order to scripted entry points; its byte strings reach the host as they are. -/
inductive RawAction where
  | stamps
  | method | uri | header (name : Option Bytes) | body
  | canSetUri | setUri (uri : Option Bytes)
  | getStatus | status (code : UInt16)
  | setHeader (name value : Option Bytes)
  | write (bytes : Option Bytes)
  | target (address : Option Bytes)
  | pause
  deriving DecidableEq, Repr

/-- A change to what a handler module's entry points hand on. -/
inductive Diversion where
  | nullRequest | noRequestTable | nullResponse | noResponseTable | nullTarget
  /-- The request goes to the other entry. -/
  | asProxy | asRequest
  deriving DecidableEq, Repr

structure Errand where
  actions : List Action := []
  rawActions : List RawAction := []
  diversions : List Diversion := []
  deriving DecidableEq, Repr

structure Handler where
  /-- The program of the n-th start, counted from 0. -/
  init : Nat → SelfProgram (Except String Unit)
  handle : Errand → ViewProgram Unit
  proxy : Errand → ViewProgram (Option String) := fun _ => .ret none
  /-- Runs on a value whose counter stands at the given number. -/
  shutdown : Nat → SelfProgram (Except String Unit) := fun _ => .ret (.ok ())
  drop : SelfProgram Unit := .ret ()
  /-- What the module's entry points hand on: whether as a proxy call, and which handles. -/
  relay : Errand → Bool → Handles → Bool × Handles := fun _ proxy handles => (proxy, handles)

structure Entries where
  request : Errand → ModuleProgram Unit
  proxy : Errand → ModuleProgram Unit := fun _ => .ret ()
  onLoad : SelfProgram Int := .ret loadOk
  /-- Runs when the module's counter stands at the given number. -/
  onUnload : Nat → SelfProgram Unit := fun _ => .ret ()

/-- What a callback that may fail comes to: a panic, an error, or neither. -/
abbrev Upshot := Except Payload (Except String Unit)

/-- How a value is let go: quietly, or by a panic of its destructor, or by one that comes first,
when it is asked for its text. -/
inductive Parting where
  | quiet | told | untold
  deriving DecidableEq, Repr

/-- How the values that callbacks hand out are let go. An error goes by its text. -/
structure Drops where
  /-- Whether the destructor of what a panic carried panics. -/
  payload : Payload → Bool := fun _ => false
  error : String → Parting := fun _ => .quiet

def Drops.parting (drops : Drops) : Upshot → Parting
  | .ok (.ok _) => .quiet
  | .ok (.error e) => drops.error e
  | .error p => if drops.payload p then .told else .quiet

@[simp] theorem Drops.parting_quiet (r : Upshot) : ({} : Drops).parting r = .quiet := by
  rcases r with p | e | u <;> rfl

inductive Code where
  /-- Callbacks, and how the values that they hand out are let go. -/
  | handler (h : Handler) (drops : Drops := {})
  | entries (e : Entries)

/-- Lets go what a panic carried, once the program has returned. -/
def Drops.after (drops : Drops) (p : Payload) (q : ModuleProgram Unit) : ModuleProgram Unit :=
  if drops.payload p then q.bind fun _ => .panic p else q

@[simp] theorem Drops.after_quiet (p : Payload) (q : ModuleProgram Unit) :
    ({} : Drops).after p q = q := rfl

namespace Handler

/-- What a request entry does when its handler panicked. -/
def afterPanic (notice : ModuleProgram Notice) : ModuleProgram Unit := do
  let n ← notice
  ModuleProgram.report n
  let status : UInt16 ← ViewOp.lower .status
  if status = 0 then ViewOp.lower (.setStatus 500) else .ret ()

def guardedRequest (h : Handler) (errand : Errand) (drops : Drops := {}) : ModuleProgram Unit :=
  (h.handle errand).lower.catchPanic fun p => drops.after p (afterPanic do
    let method : String ← ViewOp.lower .method
    let uri : String ← ViewOp.lower .uri
    return .handlerPanicked p.message method uri)

/-- Hands an address to the host. The stamp is looked at outside of the handler's own code, so that
nothing catches the panic over one that is not live. -/
def setTarget (address : String) : ModuleProgram Unit := do
  let stamps : Bool × Bool × Option Bool ← Program.op (I := ModuleInterface) .stamps
  if stamps.2.2 = some true then ModuleProgram.host (.setTarget (some (encode address)))
  else .panic (.text Fault.targetNotLive.message)

/-- What becomes of the address that the handler chose, if it chose one. -/
def giveTarget (handles : Handles) : Option String → ModuleProgram Unit
  | none => .ret ()
  | some address =>
    if handles.target.isNone then ModuleProgram.report .targetNull else setTarget address

/-- The handler's choice of an address; a panic chooses none. -/
def chosen (h : Handler) (errand : Errand) (drops : Drops := {}) : ModuleProgram (Option String) :=
  (h.proxy errand).lower.catchPanic fun p =>
    (drops.after p (afterPanic (.ret (.proxyPanicked p.message)))).bind fun _ => .ret none

def guardedProxy (h : Handler) (errand : Errand) (handles : Handles) (drops : Drops := {}) :
    ModuleProgram Unit :=
  (h.chosen errand drops).bind (giveTarget handles)

def guarded (h : Handler) (proxy : Bool) (errand : Errand) (handles : Handles)
    (drops : Drops := {}) : ModuleProgram Unit :=
  if proxy then h.guardedProxy errand handles drops else h.guardedRequest errand drops

end Handler

end ModuleHost
