import ModuleHost.Demo.Handler
import ModuleHost.Module.Library

/-!
# A set of libraries

Libraries to try a host with: the demo module, a counting module, and modules that
lack entry points, speak another version or fail to start. A file holds one of
them if it consists of a mark, which is no text, and the library's name.
-/
namespace ModuleHost.Demo

open Text Boundary

/-- Prints a line, whatever that comes to. -/
def say (line : String) : SelfProgram Unit :=
  (SelfProgram.own (.print line)).bind fun _ => .ret ()

/-- The demo module. -/
def demo : Library where
  module := { code := .handler handler }

/-- Answers 204, and exports nothing else. -/
def bare : Library where
  exports := .bare
  module := { code := .entries { request := fun _ => ModuleProgram.host (.setStatus 204) } }

/-- No module: nothing is exported. -/
def empty : Library where
  handles := false
  exports := .bare
  module := { code := .entries { request := fun _ => .ret () } }

/-- No module: only the proxy entry point is exported. -/
def onlyProxy : Library where
  handles := false
  exports := { Exports.bare with proxy := true }
  module := { code := .entries { request := fun _ => .ret () } }

/-- Speaks version 2. -/
def newer : Library where
  exports := { proxy := false }
  module :=
    { code := .entries
        { request := fun _ => .ret ()
          onLoad := (say "abi2 loaded").bind fun _ => .ret loadOk
          onUnload := fun _ => say "abi2 unloaded" }
      probe := .ret 2 }

/-- Cannot start. -/
def failing : Library where
  exports := { proxy := false }
  module :=
    { code := .entries
        { request := fun _ => .ret ()
          onLoad := (say "failload loading").bind fun _ => .ret 7
          onUnload := fun _ => say "failload unloaded" } }

/-- Counts, tells the number as a header and as the body, and then stays a while if the URI
says so. -/
def count : ModuleProgram Unit := do
  let n : Nat ← Program.op (I := ModuleInterface) .count
  let number := encode (toString n)
  let _ : Int ← ModuleProgram.host (.setHeader (some (encode "X-Count")) (some number))
  ModuleProgram.host (.writeBody (some number))
  let uri : Option Bytes ← ModuleProgram.host .uri
  if uri = some (encode "/hold") then Program.op (I := ModuleInterface) .pause else .ret ()

/-- Sends every call to one address, under one URI. -/
def forward : ModuleProgram Unit := do
  let granted : Bool ← Program.op (I := ModuleInterface) .canSetUri
  if granted then ModuleProgram.host (.setUri (some (encode "/rewritten"))) else .ret ()
  ModuleProgram.host (.setTarget (some (encode "up:1")))

/-- Counts its requests. -/
def counter : Library where
  module :=
    { code := .entries
        { request := fun _ => count
          proxy := fun _ => forward
          onLoad := (say "counter loaded").bind fun _ => .ret loadOk
          onUnload := fun n => say ("counter unloaded after " ++ toString n) } }

/-- All of them, by name. -/
def libraries : List (String × Library) :=
  [("demo", demo), ("bare", bare), ("empty", empty), ("onlyproxy", onlyProxy), ("abi2", newer),
    ("failload", failing), ("counter", counter)]

/-- The mark at the start of a library file. -/
def mark : Bytes := [0x7F, 0x4D, 0x4F, 0x44, 0xFF]

/-- The bytes of the file of a library. -/
def libraryFile (name : String) : Bytes := mark ++ encode name

/-- The library that the bytes of a file hold. -/
def library? (bytes : Bytes) : Option Library :=
  if mark.isPrefixOf bytes then (decode? (bytes.drop mark.length)).bind fun name => libraries.lookup name
  else none

end ModuleHost.Demo
