import ModuleHost.Loader.Registry
import ModuleHost.Scenario.Outcome

/-!
# Loader sessions: what can be asked and what is told

A session has a file tree, one loader at a time, and instances known by keys. A
key holds a reference to its instance, as the loader's registry does; an instance
to which nobody holds a reference is given up, which shuts it down.
-/
namespace ModuleHost.Session

open Boundary Scenario

inductive Step where
  | find (name : String)
  | load (name : String) (on : Option String)
  /-- Opens an instance past the loader. -/
  | opening (name on : String)
  | get (name : String)
  | unload (name : String)
  | unloadAll
  | searchPaths
  | addSearchPath (dir : String)
  /-- Opens a library, looks at it, and closes it. -/
  | inspect (path : String)
  | call (c : CallSpec)
  | shutdown (on : String)
  | describe (on : String)
  | drop (on : String)
  | dropLoader
  | newLoader
  | change (tree : File.Tree → File.Tree)
  /-- Starts a call on a thread of its own and leaves it waiting inside the module. -/
  | hold (c : CallSpec)
  /-- Starts a shutdown on a thread of its own. -/
  | shutdownAside (on : String)
  /-- Lets both come to their end. -/
  | release

inductive Answer where
  | found (path : Option String)
  | instance (i : Option Instance)
  | refused (e : HostError)
  | unloaded (o : Option ShutdownOutcome)
  | paths (l : List String)
  | inspected (path : String) (exports : Exports) (abi : Option Int)
  | finished (o : Outcome)
  | text (s : String)
  | nothing
  | released (call shutdown : Option Outcome)
  /-- The step names something that is not there, or never comes to an end. -/
  | stuck
  deriving DecidableEq, Repr

structure StepAnswer where
  answer : Answer
  /-- What the host has said on the thread of the step. -/
  log : List Notice
  instances : List (String × Gate)
  /-- The names of the loaded modules, none where there is no loader. -/
  loaded : Option (List String)
  /-- What modules have printed since the last step. -/
  output : String
  deriving DecidableEq, Repr

end ModuleHost.Session
