import ModuleHost.Boundary.Abi

/-!
# Handles

The host gives a module handles on the request, the response and, for proxy
calls, the slot of the target address. A handle carries a stamp, leads to host
data while it is attached, and has a table of the host's callbacks, which may be
missing. `retire` is what the host does to a handle when its call has returned:
the stamp changes for good and the way to the data is cut.
-/
namespace ModuleHost.Boundary

structure Handle (Table : Type) where
  stamp : UInt32 := liveStamp
  /-- Whether the handle still leads to host data. -/
  attached : Bool := true
  table : Option Table
  deriving DecidableEq, Repr

namespace Handle

variable {Table : Type}

def isLive (h : Handle Table) : Bool := h.stamp == liveStamp

def retire (h : Handle Table) : Handle Table := { h with stamp := retiredStamp, attached := false }

@[simp] theorem stamp_retire (h : Handle Table) : h.retire.stamp = retiredStamp := rfl

@[simp] theorem attached_retire (h : Handle Table) : h.retire.attached = false := rfl

theorem isLive_retire (h : Handle Table) : h.retire.isLive = false := rfl

end Handle

/-- The callbacks on a request that not every request has. -/
structure RequestTable where
  /-- Whether the URI may be replaced: granted to proxy calls only. -/
  canSetUri : Bool
  deriving DecidableEq, Repr

abbrev RequestHandle := Handle RequestTable
abbrev ResponseHandle := Handle Unit
abbrev TargetHandle := Handle Unit

/-- The handles given to one entry point; a missing one is a null pointer. -/
structure Handles where
  request : Option RequestHandle := none
  response : Option ResponseHandle := none
  target : Option TargetHandle := none
  deriving DecidableEq, Repr

namespace Handles

/-- The handles of a `HandleRequest` call: the request is read-only. -/
def forRequest : Handles :=
  { request := some { table := some ⟨false⟩ }, response := some { table := some () } }

/-- The handles of a `HandleProxyRequest` call: the URI may be replaced. -/
def forProxy : Handles :=
  { request := some { table := some ⟨true⟩ }, response := some { table := some () },
    target := some { table := some () } }

def retire (h : Handles) : Handles :=
  ⟨h.request.map Handle.retire, h.response.map Handle.retire, h.target.map Handle.retire⟩

/-- Whether the request handle lets the URI be replaced. -/
def canSetUri (h : Handles) : Bool :=
  match h.request with
  | some { table := some t, .. } => t.canSetUri
  | _ => false

end Handles

/-- A broken promise between host and module that is caught at run time. -/
inductive Fault where
  | requestNotLive | responseNotLive | targetNotLive
  /-- A callback was reached through a handle that is no longer attached. -/
  | retiredCallback
  /-- A callback was reached through a null pointer. -/
  | nullPointer
  deriving DecidableEq, Repr

def Fault.message : Fault → String
  | .requestNotLive => "request handle is not live"
  | .responseNotLive => "response handle is not live"
  | .targetNotLive => "proxy target is not live"
  | .retiredCallback => "callback invoked on a retired handle"
  | .nullPointer => "null pointer"

end ModuleHost.Boundary
