import ModuleHost.File.Path

/-!
# Names of libraries

A bare module name stands for the file `lib<name>.so`; a name of that form stands
for itself. The other way, a library's file names its module.
-/
namespace ModuleHost.File

/-- Whether a name has the form of a library's file name. -/
def isLibraryFilename (name : String) : Bool :=
  ['l', 'i', 'b'].isPrefixOf name.toList && ['.', 's', 'o'].isSuffixOf name.toList

def libraryFilename (name : String) : String :=
  if isLibraryFilename name then name else "lib" ++ name ++ ".so"

/-- Takes a leading `lib` away, once. -/
def dropLib : List Char → List Char
  | 'l' :: 'i' :: 'b' :: r => r
  | cs => cs

/-- The name of the module in the library at a path: the file's stem less a leading `lib`. -/
def moduleName (path : String) : String :=
  match (Path.ofText path).fileName? with
  | none => "module"
  | some name => String.ofList (dropLib (stem name).toList)

end ModuleHost.File
