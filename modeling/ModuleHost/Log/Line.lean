import ModuleHost.Config.Basic
import ModuleHost.Log.Filter
import ModuleHost.Text.Json

/-!
# Log lines

How a notice is written: as plain text, `LEVEL target: message field=value`, or as
an object with `level`, `fields` and `target`. In plain text a text field is quoted
and a shown one stands as it is, so that a line break in it breaks the line.
-/
namespace ModuleHost.Log

open Text Config

def lineValue : FieldValue → String
  | .number n => toString n
  | .text s => quote s
  | .shown s => s

def line (n : Notice) : String :=
  n.level.name ++ " " ++ n.target ++ ": " ++ n.message
    ++ String.join (n.fields.map fun (k, v) => " " ++ k ++ "=" ++ lineValue v)

def jsonValue : FieldValue → Json
  | .number n => .number n
  | .text s | .shown s => .string s

def object (n : Notice) : Json :=
  .object
    [("level", .string n.level.name),
     ("fields", .object (("message", .string n.message) :: n.fields.map fun (k, v) => (k, jsonValue v))),
     ("target", .string n.target)]

inductive Line where
  | plain (text : String)
  | json (object : Json)
  deriving Repr

/-- Two logs side by side: the host's, and that of the modules, which writes lines. -/
structure Writer where
  host : Filter
  modules : Filter
  format : LogFormat
  deriving DecidableEq, Repr

def Writer.new (environment : Option String) (settings : LogSettings) : Writer :=
  { host := .ofHost environment settings.level, modules := .ofModule environment,
    format := settings.format }

def Writer.write? (w : Writer) (n : Notice) : Option Line :=
  if n.isModules then
    if w.modules.allows n then some (.plain (line n)) else none
  else if w.host.allows n then
    some (match w.format with
      | .pretty => .plain (line n)
      | .json => .json (object n))
  else none

end ModuleHost.Log
