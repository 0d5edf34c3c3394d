import ModuleHost.Module.Code

/-!
# Views

A view is what a handler sees of its request and its response: texts instead of
bytes that may be absent. Bytes from the host that are no text read as the empty
text where a text must be there, and as absent where it need not be.

`requestView?` and `proxyView?` say which handles make a view: none of them null,
the stamps live, a table on both, and for proxy calls the right to replace the
URI. The request handle is checked before the response handle.
-/
namespace ModuleHost

open Text Boundary

inductive ViewOp where
  | method
  | uri
  | header (name : String)
  | body
  | setUri (uri : String)
  | status
  | setStatus (code : UInt16)
  | setHeader (name value : String)
  | writeBody (bytes : Bytes)
  | own (o : SelfOp)
  | count
  | pause
  deriving DecidableEq, Repr

abbrev ViewOp.Answer : ViewOp → Type
  | .method | .uri => String
  | .header _ => Option String
  | .body => Option Bytes
  | .status => UInt16
  | .setHeader .. => Except HeaderRejected Unit
  | .setUri _ | .setStatus _ | .writeBody _ | .pause => Unit
  | .own o => o.Answer
  | .count => Nat

def ViewInterface : Interface := ⟨ViewOp, ViewOp.Answer⟩

abbrev ViewProgram := Program ViewInterface

/-- The host callback behind a view operation, and how its answer is read. -/
def ViewOp.lower : (o : ViewOp) → ModuleProgram o.Answer
  | .method => (ModuleProgram.host .method).bind fun b => .ret ((b.bind decode?).getD "")
  | .uri => (ModuleProgram.host .uri).bind fun b => .ret ((b.bind decode?).getD "")
  | .header name =>
    (ModuleProgram.host (.header (some (encode name)))).bind fun b => .ret (b.bind decode?)
  | .body => ModuleProgram.host .body
  | .setUri text => ModuleProgram.host (.setUri (some (encode text)))
  | .status => ModuleProgram.host .status
  | .setStatus code => ModuleProgram.host (.setStatus code)
  | .setHeader name value =>
    (ModuleProgram.host (.setHeader (some (encode name)) (some (encode value)))).bind fun code =>
      .ret (if code = (0 : Int) then .ok () else .error ⟨name⟩)
  | .writeBody bytes => ModuleProgram.host (.writeBody (some bytes))
  | .own o => ModuleProgram.own o
  | .count => .op (I := ModuleInterface) .count
  | .pause => .op (I := ModuleInterface) .pause

/-- A handler's program as the module runs it. -/
def ViewProgram.lower {α : Type} (p : ViewProgram α) : ModuleProgram α :=
  Program.lower (I := ViewInterface) ViewOp.lower p

namespace View

def op (o : ViewOp) : ViewProgram o.Answer := .op (I := ViewInterface) o

def bodyText : ViewProgram (Option String) := (op .body).bind fun b => .ret (b.map decodeLossy)

def writeText (text : String) : ViewProgram Unit := op (.writeBody (encode text))

def note (n : Note) : ViewProgram Unit := op (.own (.note n))

def report (n : Notice) : ViewProgram Unit := op (.own (.report n))

end View

/-- A live handle with its table, none for a null one. -/
def liveTable? {Table : Type} (h : Option (Handle Table)) (fault : Fault) :
    Except Fault (Option Table) :=
  match h with
  | none => .ok none
  | some h => if h.isLive then .ok h.table else .error fault

/-- Whether the handles make a request view. -/
def requestView? (h : Handles) : Except Fault Bool :=
  (liveTable? h.request .requestNotLive).map Option.isSome

/-- Whether the request handle makes a view that may replace the URI. -/
def proxyView? (h : Handles) : Except Fault Bool :=
  (liveTable? h.request .requestNotLive).map fun t => (t.map RequestTable.canSetUri).getD false

def responseView? (h : Handles) : Except Fault Bool :=
  (liveTable? h.response .responseNotLive).map Option.isSome

/-- Whether both views of a request entry can be made. Both handles are looked at, the
request first, so a stamp that is not live is a fault whatever the other handle is. -/
def views? (proxy : Bool) (h : Handles) : Except Fault Bool := do
  let request ← if proxy then proxyView? h else requestView? h
  let response ← responseView? h
  return request && response

end ModuleHost
