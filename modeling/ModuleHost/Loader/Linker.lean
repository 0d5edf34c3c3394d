import ModuleHost.File.Tree

/-!
# How the linker finds a library

A name with a slash is a path and is opened as it stands. One without is looked for in
the linker's own directories, never in the current one: the first directory in which it
leads to something decides, even if that is no library.

A name is given in bytes that a zero ends. One that already ends in a zero means the same
as without it; no other may have a zero. In a path and in the names of the directories some
tokens after a dollar sign stand for places of the system: `$LIB` for the name of its
library directory, `$ORIGIN` and `$PLATFORM` for places where nothing is looked for.
-/
namespace ModuleHost.Linker

open Text File

/-- The name that the linker is given for a path. -/
def name? (path : String) : Option String :=
  let cs := path.toList
  let cs := if cs.getLast? == some '\x00' then cs.dropLast else cs
  if cs.contains '\x00' then none else some (String.ofList cs)

/-- The tokens, and what a path has in their place; none for a place outside the tree. -/
def tokens : List (String × Option String) :=
  [("ORIGIN", none), ("PLATFORM", none), ("LIB", some "lib/x86_64-linux-gnu")]

/-- The token after a dollar sign: its length, and what it stands for. It is a name in braces, or one
that no further letter, digit or underscore follows. -/
def token? (cs : List Char) : Option (Nat × Option String) :=
  tokens.findSome? fun (t, value) =>
    if ('\x7b' :: t.toList ++ ['\x7d']).isPrefixOf cs then some (t.length + 2, value)
    else if t.toList.isPrefixOf cs && !(cs.drop t.length).head?.any fun c => c.isAlphanum || c == '_'
    then some (t.length, value)
    else none

/-- A path with its tokens replaced; `skip` characters belong to a token that has been. -/
def expand (skip : Nat) : List Char → Option (List Char)
  | [] => some []
  | c :: r =>
    match skip with
    | n + 1 => expand n r
    | 0 =>
      match (if c = '$' then token? r else none) with
      | some (n, value) => do
        let v ← value
        let rest ← expand n r
        return v.toList ++ rest
      | none => (expand 0 r).map (c :: ·)

def expand? (path : String) : Option String := (expand 0 path.toList).map String.ofList

/-- Libraries of the system. Their names are known, and none of them is a module. -/
def systemLibraries : List String :=
  ["libc.so.6", "libdl.so.2", "libgcc_s.so.1", "libm.so.6", "libpthread.so.0", "librt.so.1",
    "ld-linux-x86-64.so.2"]

/-- What a search for a library comes to. -/
inductive Source where
  | file (number : Nat) (bytes : Bytes)
  /-- The program itself, or a library of the system. -/
  | known
  | nothing
  deriving DecidableEq, Repr

/-- Looks for a name in directories; the empty text is the current one. A directory that is not
there, where nothing has the name, or where it is denied, is passed over. -/
def search (t : Tree) (name : String) : List String → Source
  | [] => if systemLibraries.contains name then .known else .nothing
  | d :: rest =>
    match t.find (join d name) with
    | .node p (.file n bytes) => if t.isShut p then search t name rest else .file n bytes
    | .node .. => .nothing
    | .vacant _ | .missing | .denied => search t name rest
    | .barred | .tangled => if d.isEmpty || t.isDirectory d then .nothing else search t name rest

/-- What a name stands for, if nothing of that name is in memory. -/
def source (t : Tree) (directories : List String) (name : String) : Source :=
  if name.isEmpty then .known
  else if !name.toList.contains '/' then search t name (directories.filterMap expand?)
  else match (expand? name).bind t.file? with
    | some (n, bytes) => .file n bytes
    | none => .nothing

end ModuleHost.Linker
