import ModuleHost.Config.Document
import ModuleHost.File.Tree
import ModuleHost.Text.Utf8
import ModuleHost.Toml.Codec

/-!
# Configuration files

`load` reads one file, `findAndLoad` the nearest file named `modhost.toml` at or
above a directory, and `save` writes one. The text between the file and the document
is the codec's.
-/
namespace ModuleHost.Config

open File Text

/-- The configuration that the bytes of a file hold. -/
def ofBytes (bytes : Bytes) (toml : Toml.Codec := .own) : Except Error Config :=
  match decode? bytes with
  | none => .error .io
  | some text =>
    match (toml.parse text).bind ofValue? with
    | none => .error .parse
    | some c => .ok c

def load (t : Tree) (path : String) (toml : Toml.Codec := .own) : Except Error Config :=
  if t.exists? path then
    match t.read? path with
    | none => .error .io
    | some bytes => ofBytes bytes toml
  else .error (.notFound path)

/-- The configuration for a directory: the file in it, if there is one, else that for the
directory above it, and the default at the root. -/
def findAndLoad (t : Tree) (dir : String) (toml : Toml.Codec := .own) : Except Error Config :=
  let path := join dir fileName
  if t.exists? path then load t path toml
  else match _ : parent? dir with
    | none => .ok {}
    | some dir => findAndLoad t dir toml
termination_by dir.length
decreasing_by exact length_parent? ‹_›

/-- Where the configuration for a directory may be: in it, or in one above it. -/
def candidates (start : String) : List String := (ancestors start).map fun d => join d fileName

/-- The configuration for the current directory. -/
def loadCurrent (t : Tree) (toml : Toml.Codec := .own) : Except Error Config :=
  findAndLoad t (placeText t.current) toml

def save (c : Config) (t : Tree) (path : String) (toml : Toml.Codec := .own) :
    Except Error Tree :=
  match toml.print c.toDocument with
  | none => .error .io
  | some text =>
    match t.write? path (encode text) with
    | none => .error .io
    | some t => .ok t

end ModuleHost.Config
