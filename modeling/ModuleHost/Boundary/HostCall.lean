import ModuleHost.Boundary.Handle
import ModuleHost.Log.Notice
import ModuleHost.Message.Request
import ModuleHost.Message.Response

/-!
# Host callbacks

`HostCall` lists the callbacks that a module reaches through its handles.
Byte strings cross the boundary as `Option Bytes`: absent is not empty.

`CallData` is the host data of one call, and `CallData.answer` is what the host
does for each callback: text from a module is read leniently, an absent argument
changes nothing, except that an absent address clears the target. A callback on a
handle that is null, no longer attached, or without the table that grants it is
a `Fault`.
-/
namespace ModuleHost.Boundary

open Text

inductive HostCall where
  | method
  | uri
  | header (name : Option Bytes)
  | body
  | setUri (uri : Option Bytes)
  | status
  | setStatus (code : UInt16)
  | setHeader (name value : Option Bytes)
  | writeBody (bytes : Option Bytes)
  | setTarget (address : Option Bytes)
  deriving DecidableEq, Repr

namespace HostCall

/-- The type of a callback's result. Storing a header gives a code, 0 for success. -/
abbrev Answer : HostCall → Type
  | .method | .uri | .header _ | .body => Option Bytes
  | .status => UInt16
  | .setHeader .. => Int
  | .setUri _ | .setStatus _ | .writeBody _ | .setTarget _ => Unit

end HostCall

/-- The host data behind the handles of one call. -/
structure CallData where
  request : Request
  response : Response
  target : Option String := none
  deriving DecidableEq, Repr

namespace CallData

/-- What the host does for a callback, and what it reports. -/
def answer (d : CallData) : (c : HostCall) → c.Answer × CallData × List Notice
  | .method => (some (encode d.request.method), d, [])
  | .uri => (some (encode d.request.uri), d, [])
  | .header name =>
    (name.bind fun n => (d.request.header (decodeLossy n)).map encode, d, [])
  | .body => (d.request.body, d, [])
  | .setUri none => ((), d, [])
  | .setUri (some uri) => ((), { d with request := { d.request with uri := decodeLossy uri } }, [])
  | .status => (d.response.status, d, [])
  | .setStatus code => ((), { d with response := { d.response with status := code } }, [])
  | .setHeader (some name) (some value) =>
    match d.response.setHeader (decodeLossy name) (decodeLossy value) with
    | .ok (_, response) => ((0 : Int), { d with response }, [])
    | .error e => ((-1 : Int), d, [.headerRejected e])
  | .setHeader _ _ => ((-1 : Int), d, [])
  | .writeBody none => ((), d, [])
  | .writeBody (some bytes) => ((), { d with response := d.response.writeBody bytes }, [])
  | .setTarget address => ((), { d with target := address.map decodeLossy }, [])

end CallData

namespace Handles

/-- Whether a handle leads to the host. -/
def reach {Table : Type} (h : Option (Handle Table)) : Except Fault Unit :=
  match h with
  | none => .error .nullPointer
  | some h =>
    if h.table.isNone then .error .nullPointer
    else if h.attached then .ok () else .error .retiredCallback

/-- Whether the handles lead to the callback. -/
def permit (h : Handles) : HostCall → Except Fault Unit
  | .method | .uri | .header _ | .body => reach h.request
  | .setUri _ => if h.canSetUri then reach h.request else .error .nullPointer
  | .status | .setStatus _ | .setHeader .. | .writeBody _ => reach h.response
  | .setTarget _ => reach h.target

end Handles

end ModuleHost.Boundary
