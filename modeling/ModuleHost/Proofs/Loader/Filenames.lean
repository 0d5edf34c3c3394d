import ModuleHost.Proofs.Loader.Naming

/-!
# Libraries by bare names

The two halves of the rule for the names of libraries undo each other: the file that a bare name
stands for names the module that was asked for, and so does the instance that a load of it from a
search path has opened (`LoaderState.names_undone`). A name that already is one of a file stands for itself,
which is all that two names of one file can differ in.
-/
namespace ModuleHost.File

variable {a b name x : String}

theorem libraryFilename_lib (x : String) :
    libraryFilename ("lib" ++ x ++ ".so") = "lib" ++ x ++ ".so" :=
  if_pos (isLibraryFilename_iff.mpr ⟨x, rfl⟩)

theorem isLibraryFilename_libraryFilename (name : String) :
    isLibraryFilename (libraryFilename name) = true := by
  unfold libraryFilename
  split
  · assumption
  · exact isLibraryFilename_iff.mpr ⟨name, rfl⟩

/-- A file's name stands for itself, so looking for it once more changes nothing. -/
theorem libraryFilename_libraryFilename (name : String) :
    libraryFilename (libraryFilename name) = libraryFilename name :=
  if_pos (isLibraryFilename_libraryFilename name)

theorem join_empty (relative : isRooted name = false) : join "" name = name := by
  simp [join, relative]

theorem moduleName_lib (free : '/' ∉ x.toList) : moduleName ("lib" ++ x ++ ".so") = x := by
  have named := moduleName_join free ""
  rwa [join_empty (isRooted_lib x)] at named

theorem moduleName_libraryFilename (bare : IsBare name) :
    moduleName (libraryFilename name) = name := by
  rw [libraryFilename_of_not bare.2]
  exact moduleName_lib bare.1

theorem eq_or_filename (same : libraryFilename a = libraryFilename b) :
    a = b ∨ a = libraryFilename b ∨ b = libraryFilename a := by
  by_cases ha : isLibraryFilename a = true
  · exact .inr (.inl (by rw [← same, libraryFilename, if_pos ha]))
  by_cases hb : isLibraryFilename b = true
  · exact .inr (.inr (by rw [same, libraryFilename, if_pos hb]))
  -- Both were decorated, and the decoration can be taken off again.
  rw [Bool.not_eq_true] at ha hb
  rw [libraryFilename_of_not ha, libraryFilename_of_not hb] at same
  have texts := congrArg String.toList same
  simp only [toList_lib, List.cons.injEq, true_and] at texts
  exact .inl (String.ext (List.append_cancel_right texts))

end ModuleHost.File

namespace ModuleHost.LoaderState

open File

variable {canon : String → String} {name : String} {d d' : LoaderState} {n : Nat}

theorem Loads.name_of_bare (k : d.Invariant canon) (loads : Loads canon name d d' (.ok n))
    (bare : IsBare name) (elsewhere : d.host.tree.exists? name = false) :
    ∃ i, d'.system.instances[n]? = some i ∧ i.name = name := by
  obtain ⟨-, path, i, found, -, hi, -, named⟩ := loads.found k
  simp only [Loader.find?, elsewhere, Bool.false_eq_true, if_false] at found
  obtain ⟨dir, -, rfl⟩ := List.mem_map.mp (List.mem_of_find?_eq_some found)
  exact ⟨i, hi, named.trans ((moduleName_eq_iff name dir).mpr bare)⟩

/-- **Files are named for modules and modules for files**, and the one undoes the other: `lib<x>.so`
stands for itself and holds the module `x`, every bare name stands for such a file, and the instance
that comes of loading it from a search path is named as it was asked for. No two names stand for one
file, unless one of them is the name of that file. -/
theorem names_undone :
    (∀ name, libraryFilename (libraryFilename name) = libraryFilename name) ∧
    (∀ name, IsBare name → moduleName (libraryFilename name) = name) ∧
    (∀ canon name d d' n, Run canon d → Loads canon name d d' (.ok n) → IsBare name →
      d.host.tree.exists? name = false →
      ∃ i, d'.system.instances[n]? = some i ∧ i.name = name) ∧
    (∀ x : String, '/' ∉ x.toList → libraryFilename ("lib" ++ x ++ ".so") = "lib" ++ x ++ ".so" ∧
      moduleName ("lib" ++ x ++ ".so") = x) ∧
    ∀ a b, libraryFilename a = libraryFilename b →
      a = b ∨ a = libraryFilename b ∨ b = libraryFilename a := by
  refine ⟨libraryFilename_libraryFilename, fun name => moduleName_libraryFilename, ?_,
    fun x free => ⟨libraryFilename_lib x, moduleName_lib free⟩, fun a b => eq_or_filename⟩
  intro canon name d d' n run loads bare elsewhere
  exact loads.name_of_bare run.kept bare elsewhere

/-- The names `a` and `liba.so` stand for one file, and the second is its name. -/
theorem names_undone_sample : IsBare "demo" ∧ moduleName (libraryFilename "demo") = "demo" ∧
    Loads shelfCanon "demo" shelfStart shelfLoaded (.ok 0) ∧
    (∃ i, shelfLoaded.system.instances[0]? = some i ∧ i.name = "demo") ∧
    (libraryFilename "a" = libraryFilename "liba.so" ∧ ("a" = "liba.so" ∨
      "a" = libraryFilename "liba.so" ∨ "liba.so" = libraryFilename "a")) := by
  have bare : IsBare "demo" := by
    unfold IsBare
    decide
  have run : Run shelfCanon shelfStart := ⟨shelfStart, start_shelf, .refl⟩
  have loads : Loads shelfCanon "demo" shelfStart shelfLoaded (.ok 0) := loads_shelf rfl
  have same : libraryFilename "a" = libraryFilename "liba.so" := by decide
  obtain ⟨-, named, opened, -, distinct⟩ := names_undone
  exact ⟨bare, named _ bare, loads, opened _ _ _ _ _ run loads bare rfl, same,
    distinct _ _ same⟩

end ModuleHost.LoaderState
