import ModuleHost.Config.Store

/-!
# Configurations in a program

A program can hold a configuration that no file can: the paths of the system are
bytes, which need not be a text, and a number may have more bits than the integers
of TOML. `RawConfig.save` makes the text first. Only then it opens the file, which
makes it or leaves it empty, and writes.
-/
namespace ModuleHost

open File Text

/-- A path of the system: a text, or bytes that are none. -/
inductive RawPath where
  | text (s : String)
  | bytes (b : Bytes) (broken : decode? b = none)

def RawPath.text? : RawPath → Option String
  | .text s => some s
  | .bytes .. => none

structure RawModuleSettings where
  path : Option String := none
  searchPaths : List RawPath := []
  requireAbiVersion : Bool := false

structure RawConfig where
  module : RawModuleSettings := {}
  host : Config.HostSettings := {}
  logging : Config.LogSettings := {}

namespace RawConfig

/-- The configuration with its paths as texts, none if one of them is no text. -/
def config? (c : RawConfig) : Option Config :=
  (c.module.searchPaths.mapM RawPath.text?).map fun searchPaths =>
    { module := { path := c.module.path, searchPaths, requireAbiVersion := c.module.requireAbiVersion }
      host := c.host
      logging := c.logging }

/-- Every configuration from a file is one that a program can hold. -/
def ofConfig (c : Config) : RawConfig where
  module :=
    { path := c.module.path, searchPaths := c.module.searchPaths.map .text,
      requireAbiVersion := c.module.requireAbiVersion }
  host := c.host
  logging := c.logging

def load (t : Tree) (path : String) (toml : Toml.Codec := .own) : Except Config.Error RawConfig :=
  (Config.load t path toml).map ofConfig

/-- What saving comes to, and the tree that it leaves. -/
def save (c : RawConfig) (t : Tree) (path : String) (toml : Toml.Codec := .own) :
    Except Config.Error Unit × Tree :=
  match c.config?.bind fun c => toml.print c.toDocument with
  | none => (.error .io, t)
  | some text =>
    match t.write? path [] with
    | none => (.error .io, t)
    | some emptied =>
      match emptied.write? path (encode text) with
      | none => (.error .io, emptied)
      | some written => (.ok (), written)

end RawConfig

end ModuleHost
