import ModuleHost.Message.Header
import ModuleHost.Text.Utf8

/-!
# Responses

A response starts with status 0, which means that nobody has set one, without
headers and with an empty body. Header values are stored as they are given; a
refused header changes nothing.
-/
namespace ModuleHost

open Text

structure Response where
  status : UInt16 := 0
  headers : Headers := {}
  body : Bytes := []
  deriving DecidableEq, Repr

namespace Response

/-- The status of a response that leaves the host without one. -/
def defaultStatus : UInt16 := 200

/-- The response with the header stored, and the value that it replaces. -/
def setHeader (r : Response) (name value : String) :
    Except HeaderError (Option String × Response) :=
  match Header.validate (Header.key name) value with
  | .error e => .error e
  | .ok () => .ok (r.headers.get? name, { r with headers := r.headers.insert name value })

def header (r : Response) (name : String) : Option String := r.headers.get? name

/-- The response without the header, and the value that it had. -/
def removeHeader (r : Response) (name : String) : Option String × Response :=
  (r.headers.get? name, { r with headers := r.headers.erase name })

def writeBody (r : Response) (bytes : Bytes) : Response := { r with body := r.body ++ bytes }

def isUntouched (r : Response) : Bool :=
  r.status == 0 && r.headers.isEmpty && r.body.isEmpty

/-- Sets the status where nobody has. -/
def finalize (r : Response) (status : UInt16) : Response :=
  if r.status = 0 then { r with status } else r

end Response

end ModuleHost
