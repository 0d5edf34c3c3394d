import ModuleHost.Config.Basic
import ModuleHost.Instance.Error

/-!
# Failures of a command

A failure is told on one line, and under it what caused it. Some causes end in
words of the system, which are left off: the text then breaks off before them.
-/
namespace ModuleHost.Cli

inductive Failure where
  /-- The configuration cannot be loaded; `from_` is the file that was asked for. -/
  | config (from_ : Option String) (e : Config.Error)
  | badHeader (text : String)
  | noModule
  | host (e : HostError)
  /-- The calls did not come to an end. -/
  | noOutcome
  deriving DecidableEq, Repr

namespace Failure

def headline : Failure → String
  | .config (some path) _ => "Failed to load config " ++ path
  | .config none _ => "Failed to load " ++ Config.fileName
  | .badHeader text => "Header must be NAME:VALUE, got '" ++ text ++ "'"
  | .noModule => "No module given and no module.path in config"
  | .host e => e.message
  | .noOutcome => "No requests were sent"

/-- Starts every further line of a cause under its first one. -/
def hang (indent : String) (text : String) : String :=
  String.join (text.toList.map fun c => if c = '\n' then "\n" ++ indent else String.singleton c)

/-- What stands below the headline. A cause with a cause of its own has a number. -/
def causes : Failure → String
  | .config _ (.notFound path) =>
    "\n\nCaused by:\n    " ++ hang "    " (Config.Error.notFound path).message ++ "\n"
  | .config _ e => "\n\nCaused by:\n    0: " ++ e.message
  | .host (.load _) => ""
  | _ => "\n"

def text (f : Failure) : String := "Error: " ++ f.headline ++ f.causes

end Failure

end ModuleHost.Cli
