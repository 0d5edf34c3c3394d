import ModuleHost.File.Library
import ModuleHost.Loader.Linker
import ModuleHost.Machine.System
import ModuleHost.Module.Library

/-!
# The host and its libraries

A `Host` is the machine together with the file tree from which libraries are
opened. An image is a library that has been mapped: it is known by the number of
its file and by every path under which it was opened, and it lasts as long as an
instance or an opening holds it. Opening a library that is mapped gives the same
image, with the module's state in it. Which file a path stands for is up to the linker.
-/
namespace ModuleHost

open Text File Boundary

structure Image where
  /-- The names under which it has been opened. -/
  names : List String
  /-- The number of its file. -/
  file : Nat
  library : Library
  /-- Its module in the machine. -/
  module : Nat

structure Host where
  system : System := {}
  tree : Tree := {}
  images : List Image := []
  /-- The library that the bytes of a file hold. -/
  linker : Bytes → Option Library
  /-- Where the linker looks for libraries without a directory; an empty text is the current
  directory. -/
  linkerPaths : List String := []

/-- Whether an opening that has not come to its end works on the module. -/
def Task.opens (module : Nat) : Task → Bool
  | .opening _ (.done _) => false
  | .opening o _ => o.module == module
  | _ => false

namespace Host

/-- Whether a module's image is in memory. -/
def isMapped (h : Host) (module : Nat) : Bool :=
  (h.system.instances.any fun i => i.mapped && i.module == module)
    || h.system.threads.any (Task.opens module)

def mappedImage? (h : Host) (f : Image → Bool) : Option Image :=
  h.images.find? fun i => f i && h.isMapped i.module

/-- The image for a file: the one in memory, or a new one. -/
def imageOf? (h : Host) (name : String) (file : Nat) (bytes : Bytes) : Option (Host × Image) :=
  match h.mappedImage? (·.file == file) with
  | some i =>
    let i := { i with names := name :: i.names }
    some ({ h with images := h.images.map fun j => if j.module == i.module then i else j }, i)
  | none =>
    (h.linker bytes).map fun library =>
      let i : Image := { names := [name], file, library, module := h.system.modules.length }
      ({ h with images := h.images ++ [i], system := h.system.addModule library.module }, i)

/-- Opens the library at a path and finds its entry points. The program itself has none. -/
def openLibrary (h : Host) (path : String) : Except HostError (Host × Image × Exports) := do
  let some name := Linker.name? path | .error (.load path)
  let (h, i) ← match h.mappedImage? (·.names.contains name) with
    | some i => .ok (h, i)
    | none =>
      match Linker.source h.tree h.linkerPaths name with
      | .known => .error (.symbolNotFound EntryPoint.handleRequest.symbol path)
      | .nothing => .error (.load path)
      | .file number bytes =>
        match h.imageOf? name number bytes with
        | none => .error (.load path)
        | some out => .ok out
  match i.library.resolve with
  | .ok exports => .ok (h, i, exports)
  | .error e => .error (.symbolNotFound e.symbol path)

/-- Opens the library at a path, for an instance on it. -/
def prepare (h : Host) (path : String) (requireAbi : Bool) : Except HostError (Host × Opening) := do
  let (h, i, exports) ← h.openLibrary path
  return (h, { name := moduleName path, path := some path, module := i.module, exports, requireAbi })

end Host

end ModuleHost
