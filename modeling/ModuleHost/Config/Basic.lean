import ModuleHost.Message.Response

/-!
# Configuration

What a host can be told: which module to load and where to look for it, how it
treats calls and unloading, and what it logs. Every setting has a default.
-/
namespace ModuleHost

namespace Config

/-- The name of a configuration file. -/
def fileName : String := "modhost.toml"

inductive LogFormat where
  | pretty | json
  deriving DecidableEq, Repr

def LogFormat.name : LogFormat → String
  | .pretty => "pretty"
  | .json => "json"

structure ModuleSettings where
  /-- A library's path, or a bare name to be searched for. -/
  path : Option String := none
  searchPaths : List String := []
  requireAbiVersion : Bool := false
  deriving DecidableEq, Repr

structure HostSettings where
  /-- Milliseconds between warnings while an unload waits for calls. -/
  drainWarnInterval : UInt64 := 1000
  /-- The status of a response that nobody gave one. -/
  defaultStatus : UInt16 := Response.defaultStatus
  deriving DecidableEq, Repr

structure LogSettings where
  /-- Filter directives. -/
  level : String := "info"
  format : LogFormat := .pretty
  deriving DecidableEq, Repr

end Config

structure Config where
  module : Config.ModuleSettings := {}
  host : Config.HostSettings := {}
  logging : Config.LogSettings := {}
  deriving DecidableEq, Repr

namespace Config

/-- What an instance is opened with. -/
structure InstanceOptions where
  drainWarnInterval : Nat
  requireAbiVersion : Bool
  deriving DecidableEq, Repr

/-- The shortest interval between warnings, in milliseconds. -/
def minDrainWait : Nat := 1

def instanceOptions (c : Config) : InstanceOptions :=
  { drainWarnInterval := max c.host.drainWarnInterval.toNat minDrainWait
    requireAbiVersion := c.module.requireAbiVersion }

inductive Error where
  /-- The file cannot be read or written. -/
  | io
  /-- The file is no TOML, or a setting has a value that it cannot have. -/
  | parse
  | notFound (path : String)
  deriving DecidableEq, Repr

/-- The wording; what follows the colon of the first two is left off. -/
def Error.message : Error → String
  | .io => "Failed to read config file: "
  | .parse => "Failed to parse config: "
  | .notFound path => "Config file not found: " ++ path

end Config

end ModuleHost
