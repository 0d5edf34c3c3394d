import ModuleHost.Config.Store
import ModuleHost.Proofs.File.Ancestors
import ModuleHost.Proofs.File.Following

/-!
# Finding a configuration

The search for a configuration goes up from a directory, one check for each directory on its way, and
stops at the first path that leads to something; that file is loaded, whatever comes of it
(`nearest_configuration`). So it is a search of the list of candidates (`findAndLoad_eq_find?`). An entry
with the right name does not stop it where it cannot be seen that it is there: a link to nowhere
(`dangling_link_passed`), or any entry behind a directory that is shut (`shut_directory_passed`).
-/
namespace ModuleHost.Config

open File Text

variable {t : Tree} {start dir : String} {checks checks' : List String} {found found' : Option String}
  {toml : Toml.Codec}

/-- The search as it goes up from a directory: what it checks, in that order, and where it stops. -/
inductive Search (t : Tree) : String → List String → Option String → Prop
  | here {dir : String} (there : t.exists? (join dir fileName) = true) :
      Search t dir [join dir fileName] (some (join dir fileName))
  | nowhere {dir : String} (absent : t.exists? (join dir fileName) = false)
      (top : parent? dir = none) : Search t dir [join dir fileName] none
  | up {dir up : String} {checks : List String} {found : Option String}
      (absent : t.exists? (join dir fileName) = false) (parent : parent? dir = some up)
      (rest : Search t up checks found) : Search t dir (join dir fileName :: checks) found

/-- What a directory holds under the name of a configuration can be reached. -/
def Holds (t : Tree) (dir : String) : Prop := t.exists? (join dir fileName) = true

/-- The first of some directories that holds a configuration. -/
def Nearest (t : Tree) (dirs : List String) (dir : String) : Prop :=
  ∃ nearer farther, dirs = nearer ++ dir :: farther ∧ Holds t dir ∧ ∀ d ∈ nearer, ¬ Holds t d

theorem Search.unique (h : Search t dir checks found) (h' : Search t dir checks' found') :
    checks' = checks ∧ found' = found := by
  induction h generalizing checks' found' with
  | here there =>
    cases h' with
    | here => exact ⟨rfl, rfl⟩
    | nowhere absent => exact absurd (there.symm.trans absent) Bool.noConfusion
    | up absent => exact absurd (there.symm.trans absent) Bool.noConfusion
  | nowhere absent top =>
    cases h' with
    | here there => exact absurd (there.symm.trans absent) Bool.noConfusion
    | nowhere => exact ⟨rfl, rfl⟩
    | up _ parent => cases top.symm.trans parent
  | up absent parent rest ih =>
    cases h' with
    | here there => exact absurd (there.symm.trans absent) Bool.noConfusion
    | nowhere _ top => cases top.symm.trans parent
    | up _ parent' rest' =>
      obtain rfl := Option.some.inj (parent.symm.trans parent')
      obtain ⟨rfl, rfl⟩ := ih rest'
      exact ⟨rfl, rfl⟩

/-- The configuration for a directory is what its search comes to. -/
theorem Search.result : Search t dir checks found → findAndLoad t dir toml =
    match found with
    | some path => load t path toml
    | none => .ok {} := by
  intro search
  induction search with
  | here there =>
    rw [findAndLoad]
    simp only [there, if_true]
  | nowhere absent top =>
    rw [findAndLoad]
    simp only [absent, Bool.false_eq_true, if_false]
    split
    · rfl
    · rename_i parent
      cases top.symm.trans parent
  | up absent parent rest ih =>
    rw [findAndLoad]
    simp only [absent, Bool.false_eq_true, if_false]
    split
    · rename_i top
      cases top.symm.trans parent
    · rename_i up parent'
      obtain rfl := Option.some.inj (parent.symm.trans parent')
      exact ih

/-- From a rooted directory the search comes to an end: it checks some of the candidates, nearest
first, and stops at the first that leads to something. -/
theorem exists_search (t : Tree) (rooted : isRooted start = true) : ∃ checks,
    Search t start checks ((candidates start).find? t.exists?) ∧ checks <+: candidates start := by
  induction size : (Path.ofText start).parts.length generalizing start with
  | zero =>
    rcases parent?_cases rooted with ⟨top, -, all⟩ | ⟨up, -, -, -, some, -⟩
    · simp only [candidates, all, List.map_singleton]
      by_cases there : t.exists? (join start fileName) = true
      · exact ⟨_, by simpa [there] using Search.here there, List.prefix_refl _⟩
      · rw [Bool.not_eq_true] at there
        exact ⟨_, by simpa [there] using Search.nowhere there top, List.prefix_refl _⟩
    · exact absurd (List.length_eq_zero_iff.mp size) some
  | succ n ih =>
    rcases parent?_cases rooted with ⟨-, none, -⟩ | ⟨up, parent, root, parts, -, all⟩
    · simp [none] at size
    · have fewer : (Path.ofText up).parts.length = n := by
        rw [parts, List.length_dropLast, size]
        rfl
      obtain ⟨checks, search, initial⟩ := ih root fewer
      have whole : candidates start = join start fileName :: candidates up := by
        simp only [candidates, all, List.map_cons]
      rw [whole]
      by_cases there : t.exists? (join start fileName) = true
      · refine ⟨_, by simpa [there] using Search.here there, ?_⟩
        exact List.cons_prefix_cons.mpr ⟨rfl, List.nil_prefix⟩
      · rw [Bool.not_eq_true] at there
        refine ⟨_, ?_, List.cons_prefix_cons.mpr ⟨rfl, initial⟩⟩
        simpa [there] using Search.up there parent search

/-- Going up step by step is searching the list of candidates. -/
theorem findAndLoad_eq_find? (rooted : isRooted start = true) : findAndLoad t start toml =
    match (candidates start).find? t.exists? with
    | some path => load t path toml
    | none => .ok {} := by
  obtain ⟨checks, search, -⟩ := exists_search t rooted
  exact search.result

/-! ## The nearest directory -/

theorem find?_eq_some_iff {path : String} : (candidates start).find? t.exists? = some path ↔
    ∃ dir, Nearest t (ancestors start) dir ∧ path = join dir fileName := by
  simp only [candidates, List.find?_map, Option.map_eq_some_iff, List.find?_eq_some_iff_append,
    Nearest, Holds, Function.comp_apply, Bool.not_eq_true']
  constructor
  · rintro ⟨dir, ⟨there, nearer, farther, all, none⟩, rfl⟩
    exact ⟨dir, ⟨nearer, farther, all, there, fun d hd => by simp [none d hd]⟩, rfl⟩
  · rintro ⟨dir, ⟨nearer, farther, all, there, none⟩, rfl⟩
    exact ⟨dir, ⟨there, nearer, farther, all, fun d hd => by simpa using none d hd⟩, rfl⟩

theorem find?_eq_none_iff : (candidates start).find? t.exists? = none ↔
    ∀ dir ∈ ancestors start, ¬ Holds t dir := by
  simp [candidates, Holds]

theorem length_candidates (rooted : isRooted start = true) :
    (candidates start).length = (Path.ofText start).parts.length + 1 := by
  have same := congrArg List.length (ofText_ancestors rooted)
  simpa [candidates] using same

theorem ancestors_full (rooted : isRooted start = true) :
    ∀ dir ∈ ancestors start, dir ≠ "" := by
  intro dir hd none
  have mem : Path.ofText dir ∈ (ancestors start).map Path.ofText := List.mem_map_of_mem hd
  rw [ofText_ancestors rooted, none] at mem
  obtain ⟨parts, -, same⟩ := List.mem_map.mp mem
  cases congrArg Path.rooted same

theorem isName_fileName : Tree.IsName fileName := by
  refine ⟨?_, ?_, ?_, ?_⟩ <;> decide

/-- What loading a file that is there can come to. -/
theorem load_of_exists {path : String} (there : t.exists? path = true) :
    (∀ p, load t path toml ≠ .error (.notFound p)) ∧
      (t.read? path = none → load t path toml = .error .io) := by
  constructor
  · intro p
    simp only [load, there, if_true, ofBytes]
    repeat' split
    all_goals simp
  · intro unread
    simp only [load, there, if_true, unread]

/-- **The nearest configuration.** There is one way to search from a rooted directory: it checks the
directories above it and itself at most once, nearest first, and they are the beginnings of its
components. It stops at the nearest one that holds a configuration, and what loading that file
gives is the answer, be it an error; where the file cannot be read, it is. None is found exactly if no
directory holds one, and then the answer is the default. A directory holds one only if it has the entry;
and one that has it holds it, unless the entry is a link that leads nowhere, its path is too long, or
goes through too many links or a directory that is shut. -/
theorem nearest_configuration (toml : Toml.Codec) (t : Tree) (rooted : isRooted start = true) :
    ∃ checks found,
    (∀ checks' found', Search t start checks' found' ↔ checks' = checks ∧ found' = found) ∧
    checks <+: (ancestors start).map (fun dir => join dir fileName) ∧
    checks.length ≤ (Path.ofText start).parts.length + 1 ∧
    (ancestors start).map Path.ofText =
      ((Path.ofText start).parts.inits.reverse.map fun parts => ⟨true, parts⟩) ∧
    (∀ path, found = some path ↔
      ∃ dir, Nearest t (ancestors start) dir ∧ path = join dir fileName) ∧
    (found = none ↔ ∀ dir ∈ ancestors start, ¬ Holds t dir) ∧
    findAndLoad t start toml = (match found with
      | some path => load t path toml
      | none => .ok {}) ∧
    (∀ path, found = some path → (∀ p, load t path toml ≠ .error (.notFound p)) ∧
      (t.read? path = none → load t path toml = .error .io)) ∧
    ∀ dir ∈ ancestors start,
      (Holds t dir → (t.child? dir fileName).isSome) ∧
      ∀ n, t.child? dir fileName = some n →
        (Holds t dir ↔ (∀ target, n = .link target → t.Leads dir target) ∧
          (join dir fileName).utf8ByteSize < pathLimit ∧
          t.find (join dir fileName) ≠ .tangled ∧ t.find (join dir fileName) ≠ .denied) := by
  obtain ⟨checks, search, initial⟩ := exists_search t rooted
  have found (path : String) : (candidates start).find? t.exists? = some path ↔
      ∃ dir, Nearest t (ancestors start) dir ∧ path = join dir fileName := find?_eq_some_iff
  refine ⟨checks, (candidates start).find? t.exists?, fun checks' found' => ⟨search.unique, ?_⟩,
    initial, ?_, ofText_ancestors rooted, found, find?_eq_none_iff, search.result, ?_,
    fun dir hd => ?_⟩
  · rintro ⟨rfl, rfl⟩
    exact search
  · exact initial.length_le.trans (length_candidates rooted).le
  · intro path h
    obtain ⟨dir, ⟨-, -, -, there, -⟩, rfl⟩ := (found path).mp h
    exact load_of_exists there
  · have full := ancestors_full rooted dir hd
    exact ⟨Tree.child?_of_exists full isName_fileName,
      fun n => Tree.exists_iff_of_child? full isName_fileName⟩

/-- A file that is no text in a directory, and a configuration in the root. -/
def shadowed : Tree where
  nodes := [(["modhost.toml"], .file 0 (encode "[host]\ndefault_status = 204\n")),
    (["a"], .directory), (["a", "modhost.toml"], .file 1 [0xff]), (["a", "b"], .directory)]
  next := 2

/-- The nearer file cannot be read, since it is no text or since it is shut, and the search does not go
on to the one above. -/
theorem nearest_configuration_sample : isRooted "/a/./b" = true ∧
    Search shadowed "/a/./b" ["/a/./b/modhost.toml", "/a/modhost.toml"] (some "/a/modhost.toml") ∧
    findAndLoad shadowed "/a/./b" = .error .io ∧
    findAndLoad { shadowed with shut := [["modhost.toml"]] } "/" = .error .io := by
  have rooted : isRooted "/a/./b" = true := rfl
  obtain ⟨checks, found, search, -, -, -, -, -, loaded, -⟩ :=
    nearest_configuration .own shadowed rooted
  have way : Search shadowed "/a/./b" ["/a/./b/modhost.toml", "/a/modhost.toml"]
      (some "/a/modhost.toml") := .up rfl rfl (.here rfl)
  obtain ⟨-, rfl⟩ := (search _ _).mp way
  have shut : Search { shadowed with shut := [["modhost.toml"]] } "/" ["/modhost.toml"]
      (some "/modhost.toml") := .here rfl
  exact ⟨rooted, way, loaded.trans rfl, shut.result.trans rfl⟩

/-- A link to nowhere in a directory, and a configuration in the root. -/
def dangling : Tree where
  nodes := [(["modhost.toml"], .file 0 (encode "[host]\ndefault_status = 204\n")),
    (["a"], .directory), (["a", "modhost.toml"], .link "nowhere")]
  next := 1

/-- An entry with the right name that is a link to nowhere is passed by: the file above it is loaded,
though loading the entry is an error. -/
theorem dangling_link_passed :
    dangling.child? "/a" fileName = some (.link "nowhere") ∧
    load dangling (join "/a" fileName) = .error (.notFound "/a/modhost.toml") ∧
    findAndLoad dangling "/a" = load dangling "/modhost.toml" ∧
    findAndLoad dangling "/a" ≠ load dangling (join "/a" fileName) := by
  have search : Search dangling "/a" ["/a/modhost.toml", "/modhost.toml"] (some "/modhost.toml") :=
    .up rfl rfl (.here rfl)
  have above : findAndLoad dangling "/a" = load dangling "/modhost.toml" := search.result
  have missing : load dangling (join "/a" fileName) = .error (.notFound "/a/modhost.toml") := rfl
  refine ⟨rfl, missing, above, ?_⟩
  rw [above, missing]
  exact (load_of_exists rfl).1 _

/-- So is a file in a directory that is shut. -/
theorem shut_directory_passed :
    let t := { shadowed with shut := [["a"]] }
    t.child? "/a" fileName = some (.file 1 [0xff]) ∧ t.find "/a/modhost.toml" = .denied ∧
    findAndLoad t "/a" = load t "/modhost.toml" := by
  have search : Search { shadowed with shut := [["a"]] } "/a" ["/a/modhost.toml", "/modhost.toml"]
      (some "/modhost.toml") := .up rfl rfl (.here rfl)
  exact ⟨rfl, rfl, search.result⟩

end ModuleHost.Config
