import ModuleHost.Loader.Host

/-!
# The loader

A loader finds modules by name or path, in its search paths, and keeps a registry
of the instances that it has opened, by canonical path. A load is refused while
the instance registered under the same path is not unloaded. Loading has two
halves: `Loader.begin` says what is to be opened, and `Loader.register` files the
instance that the opening came to.
-/
namespace ModuleHost

open File

structure Loader where
  searchPaths : List String
  /-- Canonical paths and the instances registered under them. -/
  registry : List (String × Nat) := []
  /-- Whether modules have to tell their version. -/
  requireAbi : Bool := false
  deriving DecidableEq, Repr

namespace Loader

/-- The parts of a list of directories between colons. -/
def splitPaths (s : String) : List String :=
  (s.toList.foldr (fun c (parts : List (List Char)) => match parts with
    | p :: rest => if c = ':' then [] :: p :: rest else (c :: p) :: rest
    | [] => []) [[]]).map String.ofList

/-- The current directory, two directories of the system, and those that the environment
names. -/
def defaultSearchPaths (current : String) (libraryPath : Option String) : List String :=
  [current, "/usr/lib", "/usr/local/lib"]
    ++ ((libraryPath.map splitPaths).getD []).filter fun d => !d.isEmpty

def new (current : String) (libraryPath : Option String) (requireAbi : Bool := false) : Loader :=
  { searchPaths := defaultSearchPaths current libraryPath, requireAbi }

def addSearchPath (l : Loader) (dir : String) : Loader :=
  { l with searchPaths := l.searchPaths ++ [dir] }

/-- The path of a module: the name itself if it is the path of something, else the first
library of that name in the search paths. -/
def find? (l : Loader) (t : Tree) (name : String) : Option String :=
  if t.exists? name then some name
  else (l.searchPaths.map fun d => join d (libraryFilename name)).find? t.exists?

/-- The registered instance that forbids to load a path once more. -/
def blocking? (l : Loader) (s : System) (key : String) : Option Instance := do
  let n ← l.registry.lookup key
  let i ← s.instances[n]?
  if i.gate.state = .unloaded then none else some i

/-- A load that has been admitted: what to open, and where to file it. -/
structure Load where
  key : String
  opening : Opening

/-- Begins a load: finds the module, asks the registry, and opens the library. -/
def begin (l : Loader) (h : Host) (name : String) : Except HostError (Host × Load) :=
  match l.find? h.tree name with
  | none => .error (.moduleNotFound name)
  | some path =>
    let key := (h.tree.canonical? path).getD path
    match l.blocking? h.system key with
    | some i => .error (.alreadyLoaded i.name)
    | none => (h.prepare path l.requireAbi).map fun (h, opening) => (h, { key, opening })

/-- Files an instance, in place of one that is unloaded. -/
def register (l : Loader) (key : String) (n : Nat) : Loader :=
  { l with registry := l.registry.filter (·.1 != key) ++ [(key, n)] }

/-- Whether a name means an instance: its own name, or a text of its path. -/
def means (name : String) (i : Instance) : Bool :=
  i.name == name || i.path.any fun p => Path.ofText p == Path.ofText name

/-- The registry's entry for a name. -/
def entry? (l : Loader) (s : System) (name : String) : Option (String × Nat) :=
  l.registry.find? fun e => (s.instances[e.2]?).any (means name)

def get? (l : Loader) (s : System) (name : String) : Option Nat := (l.entry? s name).map (·.2)

/-- Takes an entry out of the registry. -/
def forget (l : Loader) (key : String) : Loader :=
  { l with registry := l.registry.filter (·.1 != key) }

/-- The names of the registered instances. -/
def loaded (l : Loader) (s : System) : List String :=
  l.registry.filterMap fun e => (s.instances[e.2]?).map (·.name)

end Loader

end ModuleHost
