import ModuleHost.Toml.Document
import ModuleHost.Toml.Reader

/-!
# Printers and parsers

Configurations are printed and parsed by a library, which they take as a parameter.
`Codec.own` is the writer and the reader of this project.
-/
namespace ModuleHost.Toml

structure Codec where
  /-- The text of a document, none if it has a value that TOML has not. -/
  print : Document → Option String
  /-- What a text holds, none if it is no TOML. -/
  parse : String → Option Value

def Codec.own : Codec := ⟨Document.render?, read?⟩

end ModuleHost.Toml
