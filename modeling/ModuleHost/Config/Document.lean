import ModuleHost.Config.Basic
import ModuleHost.Toml.Document

/-!
# Configurations as TOML

A configuration is read from a table with the sections `module`, `host` and
`logging` (`Config.ofValue?`) and written as one with all three
(`Config.toDocument`). When read, a missing setting has its default and an unknown
one is ignored. A section may also be written as an array of its settings in the
order of their declaration.
-/
namespace ModuleHost.Config

open Toml

/-! ## Values of settings -/

def text? : Value → Option String
  | .string s => some s
  | _ => none

def flag? : Value → Option Bool
  | .boolean b => some b
  | _ => none

/-- A number from 0 to `max`. -/
def number? (max : Nat) : Value → Option Nat
  | .integer n => if 0 ≤ n ∧ n ≤ max then some n.toNat else none
  | _ => none

def texts? : Value → Option (List String)
  | .array items => items.mapM text?
  | _ => none

def formatOfName? : String → Option LogFormat
  | "pretty" => some .pretty
  | "json" => some .json
  | _ => none

/-- A format by its name, or as a table with its name as the only key and nothing under it. -/
def format? : Value → Option LogFormat
  | .string s => formatOfName? s
  | .table _ [(name, .table _ [])] => formatOfName? name
  | .table _ [(name, .array [])] => formatOfName? name
  | _ => none

/-! ## Sections -/

/-- The setting with a name, as a section has it. -/
structure Lookup where
  get? : (position : Nat) → (name : String) → Option Value

/-- How a section is looked at: tables by name, arrays by position; a date has no settings. -/
def Lookup.of? : Value → Option Lookup
  | .table _ es => some ⟨fun _ name => Toml.Entries.get? es name⟩
  | .array items => some ⟨fun n _ => items[n]?⟩
  | .tables items => some ⟨fun n _ => items[n]?⟩
  | .datetime _ => some ⟨fun _ _ => none⟩
  | _ => none

/-- A setting: its default where the section has none, no answer where its value is wrong. -/
def Lookup.setting {α : Type} (l : Lookup) (position : Nat) (name : String) (read : Value → Option α)
    (default : α) : Option α :=
  match l.get? position name with
  | none => some default
  | some v => read v

def moduleSettings? (l : Lookup) : Option ModuleSettings := do
  let path ← l.setting 0 "path" (fun v => (text? v).map some) none
  let searchPaths ← l.setting 1 "search_paths" texts? []
  let requireAbiVersion ← l.setting 2 "require_abi_version" flag? false
  return { path, searchPaths, requireAbiVersion }

def hostSettings? (l : Lookup) : Option HostSettings := do
  let default : HostSettings := {}
  let drainWarnInterval ← l.setting 0 "drain_warn_interval_ms"
    (fun v => (number? (UInt64.size - 1) v).map Nat.toUInt64) default.drainWarnInterval
  let defaultStatus ← l.setting 1 "default_status"
    (fun v => (number? (UInt16.size - 1) v).map Nat.toUInt16) default.defaultStatus
  return { drainWarnInterval, defaultStatus }

def logSettings? (l : Lookup) : Option LogSettings := do
  let default : LogSettings := {}
  let level ← l.setting 0 "level" text? default.level
  let format ← l.setting 1 "format" format? default.format
  return { level, format }

/-- A section of a document: its default where there is none. -/
def part? {α : Type} (es : Toml.Entries) (name : String) (read : Lookup → Option α) (default : α) :
    Option α :=
  match Toml.Entries.get? es name with
  | none => some default
  | some v => (Lookup.of? v).bind read

def ofValue? : Value → Option Config
  | .table _ es => do
    let module ← part? es "module" moduleSettings? {}
    let host ← part? es "host" hostSettings? {}
    let logging ← part? es "logging" logSettings? {}
    return { module, host, logging }
  | _ => none

/-! ## Writing -/

/-- The document of a configuration: every setting, except a path that is not there. -/
def toDocument (c : Config) : Document :=
  [⟨"module", (c.module.path.map fun p => ("path", Setting.text p)).toList
      ++ [("search_paths", .texts c.module.searchPaths),
          ("require_abi_version", .flag c.module.requireAbiVersion)]⟩,
   ⟨"host", [("drain_warn_interval_ms", .number c.host.drainWarnInterval.toNat),
             ("default_status", .number c.host.defaultStatus.toNat)]⟩,
   ⟨"logging", [("level", .text c.logging.level), ("format", .text c.logging.format.name)]⟩]

end ModuleHost.Config
