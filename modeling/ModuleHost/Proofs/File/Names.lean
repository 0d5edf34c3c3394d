import Mathlib.Data.List.Basic
import ModuleHost.File.Library

/-!
# Names of libraries and paths

What a search makes of a name, read back as components. A bare name, which is neither a path nor the
name of a library's file, stands for a file whose module has that name (`moduleName_join`); no other
name does (`moduleName_ne`), and what is found for one is not the path that it spells (`ofText_join_ne`).
-/
namespace ModuleHost.File

variable {a b s last : List Char} {init rest : List (List Char)} {dir name text x : String}

/-! ## Pieces between slashes -/

theorem segments_ne_nil (a : List Char) : segments a ≠ [] := by
  fun_cases segments a <;> simp_all

theorem segments_cons_of_ne {c : Char} (other : c ≠ '/') (h : segments a = s :: rest) :
    segments (c :: a) = (c :: s) :: rest := by
  simp only [segments, if_neg other, h]

theorem segments_of_free (free : '/' ∉ a) : segments a = [a] := by
  induction a with
  | nil => rfl
  | cons c a ih =>
    obtain ⟨other, free⟩ := List.ne_and_not_mem_of_not_mem_cons free
    exact segments_cons_of_ne (Ne.symm other) (ih free)

theorem segments_append_slash (a b : List Char) :
    segments (a ++ '/' :: b) = segments a ++ segments b := by
  induction a with
  | nil => rfl
  | cons c a ih =>
    by_cases slash : c = '/'
    · subst slash
      simp only [List.cons_append, segments, if_true, ih]
    · obtain ⟨s, rest, h⟩ := List.exists_cons_of_ne_nil (segments_ne_nil a)
      rw [segments_cons_of_ne slash h, List.cons_append, List.cons_append]
      exact segments_cons_of_ne slash (by rw [ih, h, List.cons_append])

theorem segments_append_free (free : '/' ∉ b) (h : segments a = init ++ [last]) :
    segments (a ++ b) = init ++ [last ++ b] := by
  induction a generalizing init last with
  | nil =>
    obtain ⟨rfl, rfl⟩ : init = [] ∧ last = [] := by
      simpa [segments, List.singleton_eq_append_iff] using h
    exact segments_of_free free
  | cons c a ih =>
    by_cases slash : c = '/'
    · subst slash
      simp only [segments, if_true] at h
      cases init with
      | nil => exact absurd (List.cons.inj h).2 (segments_ne_nil a)
      | cons first init =>
        obtain ⟨rfl, below⟩ := List.cons.inj h
        simp only [List.cons_append, segments, if_true, ih below]
    · obtain ⟨s, rest, hs⟩ := List.exists_cons_of_ne_nil (segments_ne_nil a)
      rw [segments_cons_of_ne slash hs] at h
      cases init with
      | nil =>
        obtain ⟨rfl, rfl⟩ := List.cons.inj h
        have inner : segments (a ++ b) = [] ++ [s ++ b] := ih hs
        exact segments_cons_of_ne slash inner
      | cons first init =>
        obtain ⟨rfl, rfl⟩ := List.cons.inj h
        have inner : segments (a ++ b) = s :: init ++ [last ++ b] := ih hs
        exact segments_cons_of_ne slash inner

theorem not_mem_segments (h : s ∈ segments a) : '/' ∉ s := by
  induction a generalizing s with
  | nil =>
    obtain rfl := List.mem_singleton.mp h
    exact List.not_mem_nil
  | cons c a ih =>
    by_cases slash : c = '/'
    · subst slash
      rcases List.mem_cons.mp h with rfl | later
      · exact List.not_mem_nil
      · exact ih later
    · obtain ⟨s', rest, hs⟩ := List.exists_cons_of_ne_nil (segments_ne_nil a)
      rw [segments_cons_of_ne slash hs] at h
      rcases List.mem_cons.mp h with rfl | later
      · exact List.not_mem_cons_of_ne_of_not_mem (Ne.symm slash) (ih (hs ▸ List.mem_cons_self))
      · exact ih (hs ▸ List.mem_cons_of_mem _ later)

/-! ## Components -/

/-- The pieces that are components wherever they stand. -/
def components (pieces : List (List Char)) : List (List Char) :=
  pieces.filter fun s => s != [] && s != ['.']

theorem components_append (p q : List (List Char)) :
    components (p ++ q) = components p ++ components q := List.filter_append p q

theorem components_cons_of (full : s ≠ []) (dotless : s ≠ ['.']) (p : List (List Char)) :
    components (s :: p) = s :: components p := by
  simp [components, full, dotless]

theorem ofList_beq (s t : List Char) : (String.ofList s == String.ofList t) = (s == t) := by
  rw [Bool.eq_iff_iff, beq_iff_eq, beq_iff_eq, String.ofList_inj]

theorem parts_ofText (h : segments text.toList = init) : (Path.ofText text).parts =
    ((if isRooted text = false ∧ init.head? = some ['.'] then [['.']] else []) ++
      components init).map String.ofList := by
  have dot : ((init.map String.ofList).head? == some ".") = decide (init.head? = some ['.']) := by
    rw [List.head?_map]
    cases init.head? with
    | none => rfl
    | some s =>
      have same : String.ofList s = "." ↔ s = ['.'] := @String.ofList_inj s ['.']
      simp only [Option.map_some, Option.some.injEq, beq_eq_decide, same]
  have kept : (init.map String.ofList).filter (fun s => s != "" && s != ".") =
      (components init).map String.ofList := by
    rw [List.filter_map]
    congr 1
    refine List.filter_congr fun s _ => ?_
    have empty : (String.ofList s == "") = (s == []) := ofList_beq s []
    have same : (String.ofList s == ".") = (s == ['.']) := ofList_beq s ['.']
    simp only [Function.comp_apply, bne, empty, same]
  simp only [Path.ofText, h, dot, kept]
  cases isRooted text <;> by_cases dotted : init.head? = some ['.'] <;> simp [dotted]

theorem rooted_ofText (text : String) : (Path.ofText text).rooted = isRooted text := by
  simp only [Path.ofText]
  split
  · rename_i rooted
    exact rooted.symm
  · rename_i relative
    rw [Bool.not_eq_true] at relative
    split <;> exact relative.symm

theorem fileName?_ofText (h : segments text.toList = init ++ [last]) (full : last ≠ [])
    (dotless : last ≠ ['.']) (below : last ≠ ['.', '.']) :
    (Path.ofText text).fileName? = some (String.ofList last) := by
  have here : String.ofList last ≠ "." := fun same => dotless (String.ofList_injective same)
  have up : String.ofList last ≠ ".." := fun same => below (String.ofList_injective same)
  rw [Path.fileName?, parts_ofText h, components_append, components_cons_of full dotless,
    ← List.append_assoc]
  simp [components, here, up]

theorem toList_join (dir : String) (relative : isRooted name = false) :
    (dir = "" ∧ join dir name = name) ∨
      ∃ d, (dir.toList = d ∨ dir.toList = d ++ ['/']) ∧ dir ≠ "" ∧
        (join dir name).toList = d ++ '/' :: name.toList := by
  by_cases empty : dir = ""
  · subst empty
    refine .inl ⟨rfl, ?_⟩
    simp [join, relative]
  refine .inr ?_
  have full : dir.isEmpty = false := by simpa using empty
  by_cases slash : dir.toList.getLast? = some '/'
  · obtain ⟨d, hd⟩ := List.getLast?_eq_some_iff.mp slash
    refine ⟨d, .inr hd, empty, ?_⟩
    simp [join, relative, hd]
  · refine ⟨dir.toList, .inl rfl, empty, ?_⟩
    simp [join, relative, slash, full]

theorem segments_join (dir : String) (relative : isRooted name = false) :
    ∃ above, segments (join dir name).toList = above ++ segments name.toList := by
  rcases toList_join dir relative with ⟨-, same⟩ | ⟨d, -, -, text⟩
  · exact ⟨[], by rw [same, List.nil_append]⟩
  · exact ⟨segments d, by rw [text, segments_append_slash]⟩

/-! ## Names of modules -/

/-- Whether a name is neither a path nor the name of a library's file. -/
def IsBare (name : String) : Prop := '/' ∉ name.toList ∧ isLibraryFilename name = false

theorem isLibraryFilename_iff : isLibraryFilename name = true ↔ ∃ x, name = "lib" ++ x ++ ".so" := by
  simp only [isLibraryFilename, Bool.and_eq_true, List.isPrefixOf_iff_prefix,
    List.isSuffixOf_iff_suffix]
  constructor
  · rintro ⟨⟨after, front⟩, before, back⟩
    have middle : ∃ x, name.toList = ['l', 'i', 'b'] ++ (x ++ ['.', 's', 'o']) := by
      rcases List.append_eq_append_iff.mp (front.trans back.symm) with
        ⟨x, -, rfl⟩ | ⟨shared, front', back'⟩
      · exact ⟨x, front.symm⟩
      · -- The two ends do not overlap: what they shared would begin with the dot.
        cases shared with
        | nil => exact ⟨[], by rw [← back, ← List.append_nil before, ← front', List.nil_append]⟩
        | cons c shared =>
          obtain rfl : '.' = c := (List.cons.inj back').1
          have dot : '.' ∈ ['l', 'i', 'b'] := front' ▸ by simp
          simp at dot
    obtain ⟨x, whole⟩ := middle
    refine ⟨String.ofList x, String.ext ?_⟩
    rw [whole]
    simp
  · rintro ⟨x, rfl⟩
    refine ⟨by simp, 'l' :: 'i' :: 'b' :: x.toList, ?_⟩
    simp

theorem libraryFilename_of_not (bare : isLibraryFilename name = false) :
    libraryFilename name = "lib" ++ name ++ ".so" := by
  simp only [libraryFilename, bare, Bool.false_eq_true, if_false]

theorem toList_lib (x : String) :
    ("lib" ++ x ++ ".so").toList = 'l' :: 'i' :: 'b' :: (x.toList ++ ['.', 's', 'o']) := by
  simp

theorem isRooted_lib (x : String) : isRooted ("lib" ++ x ++ ".so") = false := by
  simp [isRooted]

theorem stem_so (full : a ≠ []) : stem (String.ofList (a ++ ['.', 's', 'o'])) = String.ofList a := by
  obtain ⟨before, c, rfl⟩ := List.eq_nil_or_concat a |>.resolve_left full
  simp [stem]

/-- **The file that a bare name stands for holds a module of that name.** -/
theorem moduleName_join (free : '/' ∉ x.toList) (dir : String) :
    moduleName (join dir ("lib" ++ x ++ ".so")) = x := by
  obtain ⟨above, pieces⟩ := segments_join dir (isRooted_lib x)
  have whole : '/' ∉ ("lib" ++ x ++ ".so").toList := by
    rw [toList_lib]
    simp [free]
  rw [segments_of_free whole] at pieces
  have named := fileName?_ofText pieces (by simp) (by simp) (by simp)
  have stemmed : stem ("lib" ++ x ++ ".so") = String.ofList ('l' :: 'i' :: 'b' :: x.toList) := by
    have split : "lib" ++ x ++ ".so" =
        String.ofList (('l' :: 'i' :: 'b' :: x.toList) ++ ['.', 's', 'o']) := by
      apply String.ext
      simp
    rw [split]
    exact stem_so (List.cons_ne_nil _ _)
  simp only [moduleName, named, String.ofList_toList, stemmed, String.toList_ofList, dropLib]

theorem dropLib_suffix (a : List Char) : dropLib a <:+ a := by
  unfold dropLib
  split
  · exact ⟨['l', 'i', 'b'], rfl⟩
  · exact List.suffix_refl _

theorem mem_stem {c : Char} (h : c ∈ (stem name).toList) : c ∈ name.toList := by
  simp only [stem] at h
  split at h
  · rename_i dot first more cut
    have before : c ∈ name.toList.reverse.dropWhile (· != '.') := by
      rw [String.toList_ofList, List.mem_reverse] at h
      rw [cut]
      exact List.mem_cons_of_mem _ h
    exact List.mem_reverse.mp ((List.dropWhile_suffix _).subset before)
  · exact h

theorem moduleName_free (path : String) : '/' ∉ (moduleName path).toList := by
  unfold moduleName
  split
  · simp
  · rename_i file named
    rw [String.toList_ofList]
    intro slash
    have slash : '/' ∈ file.toList := mem_stem ((dropLib_suffix _).subset slash)
    -- The file's name is one of the pieces.
    simp only [Path.fileName?, parts_ofText rfl, Option.bind_eq_some_iff] at named
    obtain ⟨part, at_, named⟩ := named
    split at named
    · cases named
    cases named
    obtain ⟨piece, hp, rfl⟩ := List.mem_map.mp (List.mem_of_getLast? at_)
    rw [String.toList_ofList] at slash
    rcases List.mem_append.mp hp with dot | hp
    · split at dot
      · obtain rfl := List.mem_singleton.mp dot
        simp at slash
      · cases dot
    · exact not_mem_segments (List.mem_filter.mp hp).1 slash

/-- A module is named as it was asked for exactly if that was by a bare name. -/
theorem moduleName_eq_iff (name dir : String) :
    moduleName (join dir (libraryFilename name)) = name ↔ IsBare name := by
  constructor
  · intro same
    have free : '/' ∉ name.toList := by
      rw [← same]
      exact moduleName_free _
    refine ⟨free, ?_⟩
    by_contra decorated
    rw [Bool.not_eq_false] at decorated
    obtain ⟨x, rfl⟩ := isLibraryFilename_iff.mp decorated
    have inner : '/' ∉ x.toList := by
      rw [toList_lib] at free
      simpa using free
    rw [libraryFilename, if_pos decorated, moduleName_join inner] at same
    have length := congrArg (fun s => s.toList.length) same
    simp only [toList_lib, List.length_cons, List.length_append] at length
    omega
  · rintro ⟨free, bare⟩
    rw [libraryFilename_of_not bare]
    exact moduleName_join free dir

/-! ## What a search finds -/

theorem length_components_join {d : List Char} (relative : isRooted (join dir name) = false)
    (text : segments name.toList = init)
    (whole : (join dir name).toList = d ++ '/' :: name.toList) :
    (components init).length < (Path.ofText (join dir name)).parts.length := by
  rw [isRooted, whole] at relative
  cases d with
  | nil => simp at relative
  | cons c more =>
    have other : c ≠ '/' := by simpa using relative
    obtain ⟨s, rest, hs⟩ := List.exists_cons_of_ne_nil (segments_ne_nil more)
    have pieces : segments (join dir name).toList = (c :: s) :: rest ++ init := by
      rw [whole, segments_append_slash, segments_cons_of_ne other hs, text]
    have root : isRooted (join dir name) = false := by
      rw [isRooted, whole]
      exact relative
    rw [parts_ofText pieces, components_append]
    by_cases dot : (c :: s) = ['.']
    · have dotted : ((c :: s) :: rest ++ init).head? = some ['.'] := congrArg some dot
      rw [if_pos ⟨root, dotted⟩]
      simp only [List.length_map, List.length_append, List.length_cons, List.length_nil]
      omega
    · rw [components_cons_of (List.cons_ne_nil _ _) dot]
      simp only [List.length_map, List.length_append, List.length_cons]
      omega

theorem ofText_join_ne_of_lib (moved : join dir name ≠ name)
    (decorated : isLibraryFilename name = true) :
    Path.ofText (join dir name) ≠ Path.ofText name := by
  intro same
  obtain ⟨x, rfl⟩ := isLibraryFilename_iff.mp decorated
  have relative := isRooted_lib x
  rcases toList_join dir relative with ⟨-, unmoved⟩ | ⟨d, -, -, whole⟩
  · exact moved unmoved
  have root := congrArg Path.rooted same
  rw [rooted_ofText, rooted_ofText, relative] at root
  have longer := length_components_join root rfl whole
  have dotless : (segments ("lib" ++ x ++ ".so").toList).head? ≠ some ['.'] := by
    obtain ⟨s, rest, hs⟩ := List.exists_cons_of_ne_nil
      (segments_ne_nil ('i' :: 'b' :: (x.toList ++ ['.', 's', 'o'])))
    rw [toList_lib, segments_cons_of_ne (by decide) hs]
    simp
  rw [same, parts_ofText rfl, if_neg fun h => dotless h.2] at longer
  simp at longer

theorem ofText_join_ne_of_slash (slash : '/' ∈ name.toList) (dir : String) :
    Path.ofText (join dir ("lib" ++ name ++ ".so")) ≠ Path.ofText name := by
  intro same
  obtain ⟨a, b, whole, free⟩ := List.eq_append_cons_of_mem slash
  obtain ⟨init, last, pieces⟩ : ∃ init last, segments b = init ++ [last] := by
    rcases List.eq_nil_or_concat' (segments b) with none | some
    · exact absurd none (segments_ne_nil b)
    · exact some
  have named : segments name.toList = a :: (init ++ [last]) := by
    rw [whole, segments_append_slash, segments_of_free free, pieces, List.singleton_append]
  have library : segments ("lib" ++ name ++ ".so").toList =
      ('l' :: 'i' :: 'b' :: a) :: (init ++ [last ++ ['.', 's', 'o']]) := by
    have front : '/' ∉ 'l' :: 'i' :: 'b' :: a := by simp [free]
    have split : ("lib" ++ name ++ ".so").toList =
        ('l' :: 'i' :: 'b' :: a) ++ '/' :: (b ++ ['.', 's', 'o']) := by
      rw [toList_lib, whole]
      simp
    rw [split, segments_append_slash, segments_of_free front,
      segments_append_free (by decide) pieces, List.singleton_append]
  obtain ⟨above, text⟩ := segments_join dir (isRooted_lib name)
  rw [library] at text
  have parts := congrArg Path.parts same
  rw [parts_ofText text, parts_ofText named] at parts
  have parts := List.map_injective_iff.mpr (fun _ _ => String.ofList_injective) parts
  have extended : components [last ++ ['.', 's', 'o']] = [last ++ ['.', 's', 'o']] :=
    components_cons_of (by simp) (by cases last <;> simp) []
  rw [components_append, components_cons_of (List.cons_ne_nil _ _) (by simp),
    components_append init, extended] at parts
  -- The name has at most one component before its inner ones.
  have first : ((if isRooted name = false ∧ (a :: (init ++ [last])).head? = some ['.']
      then [['.']] else []) ++ components [a]).length ≤ 1 := by
    by_cases dot : a = ['.']
    · subst dot
      split <;> simp [components]
    · have undotted : ¬ (isRooted name = false ∧ (a :: (init ++ [last])).head? = some ['.']) :=
        fun h => dot (Option.some.inj h.2)
      rw [if_neg undotted, List.nil_append]
      exact List.length_filter_le _ _
  have inner : components (a :: (init ++ [last])) =
      components [a] ++ (components init ++ components [last]) := by
    rw [← components_append, ← components_append, List.singleton_append]
  rw [inner, ← List.append_assoc] at parts
  by_cases kept : last ≠ [] ∧ last ≠ ['.']
  · rw [components_cons_of kept.1 kept.2] at parts
    have ends := congrArg List.getLast? parts
    simp [components, List.getLast?_cons] at ends
  · have dropped : components [last] = [] := by
      simp only [not_and_or, not_not] at kept
      rcases kept with rfl | rfl <;> rfl
    rw [dropped, List.append_nil] at parts
    have lengths := congrArg List.length parts
    simp only [List.length_append, List.length_cons, List.length_nil] at lengths first
    omega

/-- What a search finds elsewhere is not the path that the name spells. -/
theorem ofText_join_ne (moved : join dir (libraryFilename name) ≠ name) (other : ¬ IsBare name) :
    Path.ofText (join dir (libraryFilename name)) ≠ Path.ofText name := by
  by_cases decorated : isLibraryFilename name = true
  · rw [libraryFilename, if_pos decorated] at moved ⊢
    exact ofText_join_ne_of_lib moved decorated
  · rw [Bool.not_eq_true] at decorated
    have slash : '/' ∈ name.toList := by
      by_contra free
      exact other ⟨free, decorated⟩
    rw [libraryFilename_of_not decorated]
    exact ofText_join_ne_of_slash slash dir

end ModuleHost.File
