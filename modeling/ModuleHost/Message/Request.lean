import ModuleHost.Message.Header
import ModuleHost.Text.Utf8

/-!
# Requests

The host's own request: a method, a URI, a header map and a body that may be
absent. Values are stored trimmed. The URI is split at its first question mark
into the path and the query.
-/
namespace ModuleHost

open Text

structure Request where
  method : String := ""
  uri : String := ""
  headers : Headers := {}
  body : Option Bytes := none
  deriving DecidableEq, Repr

namespace Request

def new (method uri : String) : Request := { method, uri }

def setHeader (r : Request) (name value : String) : Request :=
  { r with headers := r.headers.insert name (trim value) }

def header (r : Request) (name : String) : Option String := r.headers.get? name

def withBody (r : Request) (body : Bytes) : Request := { r with body := some body }

/-- The URI up to its first question mark. -/
def path (r : Request) : String := String.ofList (r.uri.toList.takeWhile (· != '?'))

/-- What follows the first question mark, none without one. -/
def query (r : Request) : Option String :=
  match r.uri.toList.dropWhile (· != '?') with
  | [] => none
  | _ :: rest => some (String.ofList rest)

end Request

end ModuleHost
