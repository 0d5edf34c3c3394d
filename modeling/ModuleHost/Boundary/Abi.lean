import ModuleHost.Text.Quoted
import ModuleHost.Text.Utf8

/-!
# The contract between a host and its modules

A module exports up to five entry points under fixed symbols, of which only
`HandleRequest` is mandatory. The numbers here are part of the contract: the
version of the layout, the two stamps that a handle carries, and the two results
of `OnLoad`.
-/
namespace ModuleHost.Boundary

open Text

def abiVersion : UInt32 := 1

/-- On a handle while its call is in progress. -/
def liveStamp : UInt32 := 0x4D4F444C

/-- On a handle after its call has returned. -/
def retiredStamp : UInt32 := 0xDEAD0D1E

/-- What `OnLoad` returns when the module is ready. -/
def loadOk : Int := 0

/-- What `OnLoad` returns when the module cannot start. -/
def loadFailed : Int := -1

inductive EntryPoint where
  | handleRequest | handleProxyRequest | onLoad | onUnload | moduleAbiVersion
  deriving DecidableEq, Repr

namespace EntryPoint

/-- The order in which a module's symbols are resolved and listed. -/
def all : List EntryPoint :=
  [.handleRequest, .handleProxyRequest, .onLoad, .onUnload, .moduleAbiVersion]

def symbol : EntryPoint → String
  | .handleRequest => "HandleRequest"
  | .handleProxyRequest => "HandleProxyRequest"
  | .onLoad => "OnLoad"
  | .onUnload => "OnUnload"
  | .moduleAbiVersion => "ModuleAbiVersion"

/-- The symbol as it stands in a library, closed by a zero byte. -/
def symbolBytes (e : EntryPoint) : Bytes := encode e.symbol ++ [0]

end EntryPoint

/-- Which of the optional entry points a module exports. -/
structure Exports where
  proxy : Bool := true
  onLoad : Bool := true
  onUnload : Bool := true
  abiVersion : Bool := true
  deriving DecidableEq, Repr

namespace Exports

/-- Only the mandatory entry point. -/
def bare : Exports := ⟨false, false, false, false⟩

def has (x : Exports) : EntryPoint → Bool
  | .handleRequest => true
  | .handleProxyRequest => x.proxy
  | .onLoad => x.onLoad
  | .onUnload => x.onUnload
  | .moduleAbiVersion => x.abiVersion

/-- The symbols exported, in order of resolution. -/
def symbols (x : Exports) : List String := (EntryPoint.all.filter x.has).map EntryPoint.symbol

/-- The list of symbols as one text. -/
def listText (x : Exports) : String := quoteList x.symbols

def describe (x : Exports) : String := "EntryPoints \x7b exported: " ++ x.listText ++ " \x7d"

end Exports

end ModuleHost.Boundary
