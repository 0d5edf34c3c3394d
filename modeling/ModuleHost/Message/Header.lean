import ModuleHost.Text.Blank
import ModuleHost.Text.Quoted

/-!
# Header maps

A header is found under its *key*: the name trimmed of blanks, with the letters
A to Z lowered. `Headers` keeps one value per key, in ascending order of the keys,
so equal maps are equal lists.

Responses refuse a header before storing it (`validate`): the key is checked
first, an empty one before one with a character outside the token class, and the
value last.
-/
namespace ModuleHost

open Text

/-- Why a response refuses a header. Names are given as keys. -/
inductive HeaderError where
  | emptyName
  | invalidName (key : String)
  | invalidValue (key : String)
  deriving DecidableEq, Repr

def HeaderError.message : HeaderError → String
  | .emptyName => "Header name is empty"
  | .invalidName key => "Invalid character in header name: " ++ quote key
  | .invalidValue key => "Header value for '" ++ key ++ "' contains CR or LF"

namespace Header

/-- The form under which a name is stored and looked up. -/
def key (name : String) : String := lowerAscii (trim name)

/-- The characters of a header name: letters, digits and fifteen marks, all ASCII. -/
def isTokenChar (c : Char) : Bool :=
  c.isAlphanum || ['!', '#', '$', '%', '&', '\'', '*', '+', '-', '.', '^', '_', '\x60', '|', '~'].contains c

/-- Characters that would end a header line early. -/
def breaksLine (c : Char) : Bool := c == '\r' || c == '\n' || c == '\x00'

def validate (key value : String) : Except HeaderError Unit :=
  if key.isEmpty then .error .emptyName
  else if !key.toList.all isTokenChar then .error (.invalidName key)
  else if value.toList.any breaksLine then .error (.invalidValue key)
  else .ok ()

end Header

structure Headers where
  /-- One entry per key, keys ascending. -/
  entries : List (String × String) := []
  deriving DecidableEq, Repr

namespace Headers

def isEmpty (h : Headers) : Bool := h.entries.isEmpty

def lookup (k : String) : List (String × String) → Option String
  | [] => none
  | (name, value) :: rest => if name = k then some value else lookup k rest

/-- Puts `value` under `k`, before the first greater key. -/
def put (k value : String) : List (String × String) → List (String × String)
  | [] => [(k, value)]
  | (name, old) :: rest =>
    if k = name then (k, value) :: rest
    else if k < name then (k, value) :: (name, old) :: rest
    else (name, old) :: put k value rest

def get? (h : Headers) (name : String) : Option String := lookup (Header.key name) h.entries

def insert (h : Headers) (name value : String) : Headers :=
  ⟨put (Header.key name) value h.entries⟩

def erase (h : Headers) (name : String) : Headers :=
  ⟨h.entries.filter fun e => e.1 != Header.key name⟩

def toList (h : Headers) : List (String × String) := h.entries

end Headers

end ModuleHost
