import ModuleHost.Boundary.Abi

/-!
# Why the host refuses
-/
namespace ModuleHost

open Boundary

inductive HostError where
  /-- The file is no library that can be opened. -/
  | load (path : String)
  | moduleNotFound (name : String)
  | symbolNotFound (symbol : String) (path : String)
  | incompatibleAbi (module : String) (expected found : UInt32)
  | initFailed (module : String) (code : Int)
  | alreadyLoaded (module : String)
  | shuttingDown (module : String)
  | entryPointMissing (module : String) (entry : EntryPoint)
  deriving DecidableEq, Repr

/-- The wording; what the system says about a file that cannot be opened is left off. -/
def HostError.message : HostError → String
  | .load path => "Failed to load module '" ++ path ++ "': "
  | .moduleNotFound name => "Module not found: " ++ name
  | .symbolNotFound symbol path => "Symbol '" ++ symbol ++ "' not found in '" ++ path ++ "'"
  | .incompatibleAbi m expected found =>
    "Module '" ++ m ++ "' was built against ABI v" ++ toString found.toNat ++ ", host speaks v"
      ++ toString expected.toNat
  | .initFailed m code =>
    "Module '" ++ m ++ "' failed to initialize (OnLoad returned " ++ toString code ++ ")"
  | .alreadyLoaded m => "Module '" ++ m ++ "' is already loaded"
  | .shuttingDown m => "Module '" ++ m ++ "' is shutting down"
  | .entryPointMissing m entry => "Module '" ++ m ++ "' does not export " ++ entry.symbol

end ModuleHost
