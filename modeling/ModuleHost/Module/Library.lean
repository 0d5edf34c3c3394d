import ModuleHost.Machine.Context

/-!
# Libraries

A library is what a file holds that can be opened: the entry points it exports
and its module as it is when the library has just been mapped. One without
`HandleRequest` is no module.
-/
namespace ModuleHost

open Boundary

structure Library where
  /-- Whether the mandatory entry point is exported. -/
  handles : Bool := true
  exports : Exports := {}
  /-- The module's state in a fresh image. -/
  module : Module

/-- The symbols of a library, found one by one; without the mandatory one there are none. -/
def Library.resolve (l : Library) : Except EntryPoint Exports :=
  if l.handles then .ok l.exports else .error .handleRequest

end ModuleHost
