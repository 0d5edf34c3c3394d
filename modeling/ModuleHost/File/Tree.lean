import ModuleHost.File.Path
import ModuleHost.Text.Utf8

/-!
# File trees

A tree has nodes at places: a place is the list of names from the root. The root
is a directory. A file holds bytes, and keeps its number as long as it exists,
whatever is written to it.

A path is followed piece by piece (`Tree.find`): a dot and an empty piece stay,
two dots go up, a name goes down, and a link is replaced by its target, up to
`linkLimit` times. Every piece but the last has to lead to a directory, and one
followed by a slash is not the last. A path and its names have a greatest length, in
bytes.

The system may deny a place to the program: nothing is looked up in a directory
that is shut, and a file that is shut is neither read nor written. It can still be
seen that either is there.
-/
namespace ModuleHost.File

open Text

abbrev Place := List String

inductive Node where
  | directory
  | file (number : Nat) (bytes : Bytes)
  /-- A symbolic link; its target is a path, seen from the link's directory. -/
  | link (target : String)
  deriving DecidableEq, Repr

structure Tree where
  nodes : List (Place × Node) := []
  /-- What the system denies to the program. -/
  shut : List Place := []
  /-- Where relative paths start. -/
  current : Place := []
  /-- The number of the next file. -/
  next : Nat := 0
  deriving DecidableEq, Repr

def linkLimit : Nat := 40

/-- A path is shorter than this. -/
def pathLimit : Nat := 4096

/-- A name is no longer than this. -/
def nameLimit : Nat := 255

/-- Where a path leads. -/
inductive Found where
  | node (at_ : Place) (n : Node)
  /-- The directory is there, and has nothing under the last name. -/
  | vacant (at_ : Place)
  /-- Something on the way is not there. -/
  | missing
  /-- The way goes through a directory that is shut. -/
  | denied
  /-- It goes through more links than are followed. -/
  | tangled
  /-- There is no such way: it goes on behind a file, or is too long. -/
  | barred

/-- The pieces of a path, as they are followed. -/
def pieces (path : String) : List String := (segments path.toList).map String.ofList

def placeText (p : Place) : String := "/" ++ String.intercalate "/" p

namespace Tree

def node? (t : Tree) (p : Place) : Option Node :=
  if p.isEmpty then some .directory else t.nodes.lookup p

def isShut (t : Tree) (p : Place) : Bool := t.shut.contains p

/-- Follows the pieces of a path from a directory; `follow` takes over at a link. -/
def walk (t : Tree) (follow : Place → List String → Found) (dir : Place) : List String → Found
  | [] => .node dir .directory
  | s :: rest =>
    if s = "" then walk t follow dir rest
    else if t.isShut dir then .denied
    else if s = "." then walk t follow dir rest
    else if s = ".." then walk t follow dir.dropLast rest
    else
      let p := dir ++ [s]
      match t.node? p with
      | none =>
        if s.utf8ByteSize > nameLimit then .barred else if rest.isEmpty then .vacant p else .missing
      | some .directory => walk t follow p rest
      | some (.file n b) => if rest.isEmpty then .node p (.file n b) else .barred
      | some (.link target) =>
        follow (if isRooted target then [] else dir) (pieces target ++ rest)

/-- Follows a path through at most `n` links. -/
def walkLinks (t : Tree) : (n : Nat) → Place → List String → Found
  | 0 => t.walk fun _ _ => .tangled
  | n + 1 => t.walk (walkLinks t n)

/-- Where a path leads from a directory. -/
def follow (t : Tree) (dir : Place) (path : String) : Found :=
  t.walkLinks linkLimit (if isRooted path then [] else dir) (pieces path)

/-- Where a path leads. The empty path leads nowhere, and no path has a zero byte. -/
def find (t : Tree) (path : String) : Found :=
  if path.isEmpty then .missing
  else if path.utf8ByteSize ≥ pathLimit || path.toList.contains '\x00' then .barred
  else t.follow t.current path

def exists? (t : Tree) (path : String) : Bool := t.find path matches .node ..

def isDirectory (t : Tree) (path : String) : Bool := t.find path matches .node _ .directory

/-- The path without links and dots, none where it leads nowhere. -/
def canonical? (t : Tree) (path : String) : Option String :=
  match t.find path with
  | .node p _ => some (placeText p)
  | _ => none

/-- The number and the bytes of a file that can be read. -/
def file? (t : Tree) (path : String) : Option (Nat × Bytes) :=
  match t.find path with
  | .node p (.file n b) => if t.isShut p then none else some (n, b)
  | _ => none

def read? (t : Tree) (path : String) : Option Bytes := (t.file? path).map (·.2)

/-- Puts a node at a place, replacing what is there; it is not shut. -/
def put (t : Tree) (p : Place) (n : Node) : Tree :=
  { t with nodes := (p, n) :: t.nodes.filter (·.1 != p), shut := t.shut.filter (· != p) }

/-- Writes a file: a new one gets a number of its own. None where the path leads to a directory,
to a file that is shut or nowhere. -/
def write? (t : Tree) (path : String) (bytes : Bytes) : Option Tree :=
  match t.find path with
  | .node p (.file n _) => if t.isShut p then none else some (t.put p (.file n bytes))
  | .vacant p => some ({ t with next := t.next + 1 }.put p (.file t.next bytes))
  | _ => none

/-- Makes the directories on the way to a path and the path itself. -/
def makeDirectories (t : Tree) (path : String) : Tree :=
  let steps := (pieces path).foldl
    (fun (done : List String) s => (match done with
      | [] => s
      | d :: _ => d ++ "/" ++ s) :: done) []
  steps.reverse.foldl (fun t d => match t.find d with
    | .vacant p => t.put p .directory
    | _ => t) t

/-- Puts a link at a path. -/
def link (t : Tree) (path target : String) : Tree :=
  match t.find path with
  | .vacant p => t.put p (.link target)
  | _ => t

/-- The part of a path before its last slash, and the name after it. -/
def splitLast (path : String) : String × String :=
  let rev := path.toList.reverse
  (String.ofList (rev.dropWhile (· != '/')).reverse, String.ofList (rev.takeWhile (· != '/')).reverse)

/-- Takes a file or a link away, itself and not its target. -/
def remove (t : Tree) (path : String) : Tree :=
  let (dir, name) := splitLast path
  match (if dir.isEmpty then .node t.current .directory else t.find dir : Found) with
  | .node p .directory => { t with nodes := t.nodes.filter fun e => !(p ++ [name]).isPrefixOf e.1 }
  | _ => t

/-- Makes a directory the current one. -/
def enter (t : Tree) (path : String) : Tree :=
  match t.find path with
  | .node p .directory => { t with current := p }
  | _ => t

end Tree

end ModuleHost.File
