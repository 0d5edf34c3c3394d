import Mathlib.Data.List.Infix
import ModuleHost.File.Tree
import ModuleHost.Proofs.File.Names

/-!
# The paths above a path

`parent?` takes the last component off a path, and leaves the first of the paths above it
(`parent?_eq`). From a rooted path the paths above it are reached by doing so again and again
(`parent?_cases`), and they are one for each beginning of its components, however the path is spelled
(`ofText_ancestors`).
-/
namespace ModuleHost.File

variable {l rest : List String} {text up : String}

/-! ## Pieces -/

theorem segments_intercalate (full : l ≠ []) (free : ∀ s ∈ l, '/' ∉ s.toList) :
    segments (String.intercalate "/" l).toList = l.map String.toList := by
  induction l with
  | nil => exact absurd rfl full
  | cons s rest ih =>
    obtain ⟨first, later⟩ := List.forall_mem_cons.mp free
    cases rest with
    | nil => simpa using segments_of_free first
    | cons s' rest =>
      rw [String.intercalate_cons_of_ne_nil (List.cons_ne_nil _ _), String.toList_append,
        String.toList_append]
      change segments ((s.toList ++ ['/']) ++ _) = _
      rw [List.append_assoc, List.singleton_append, segments_append_slash, segments_of_free first,
        ih (List.cons_ne_nil _ _) later]
      rfl

/-- The pieces of a rooted path, behind its first slash. -/
def trail (text : String) : List String := (segments (text.toList.drop 1)).map String.ofList

theorem trail_free : ∀ s ∈ trail text, '/' ∉ s.toList := by
  intro s hs
  obtain ⟨piece, hp, rfl⟩ := List.mem_map.mp hs
  rw [String.toList_ofList]
  exact not_mem_segments hp

theorem toList_of_rooted (rooted : isRooted text = true) :
    ∃ cs, text.toList = '/' :: cs := by
  simp only [isRooted, beq_iff_eq] at rooted
  exact List.head?_eq_some_iff.mp rooted

theorem isRooted_placeText (l : List String) : isRooted (placeText l) = true := by
  simp [isRooted, placeText]

/-- The pieces that are components of a rooted path. -/
def named (l : List String) : List String := l.filter fun s => !isIdle s

theorem named_map (pieces : List (List Char)) :
    named (pieces.map String.ofList) = (components pieces).map String.ofList := by
  rw [named, List.filter_map, components]
  congr 1
  refine List.filter_congr fun s _ => ?_
  have empty : (String.ofList s == "") = (s == []) := ofList_beq s []
  have dot : (String.ofList s == ".") = (s == ['.']) := ofList_beq s ['.']
  simp only [Function.comp_apply, isIdle, empty, dot, Bool.not_or, bne]

theorem ofText_rooted (rooted : isRooted text = true) :
    Path.ofText text = ⟨true, named (trail text)⟩ := by
  obtain ⟨cs, whole⟩ := toList_of_rooted rooted
  have pieces : segments text.toList = [] :: segments cs := by simp [whole, segments]
  have parts := parts_ofText pieces
  rw [if_neg (by simp [rooted])] at parts
  have root := (rooted_ofText text).trans rooted
  have tail : trail text = (segments cs).map String.ofList := by simp [trail, whole]
  rw [tail, named_map]
  cases path : Path.ofText text
  simp only [path] at parts root
  rw [parts, root]
  simp [components]

/-! ## One step up -/

theorem named_dropWhile (l : List String) : named (l.dropWhile isIdle) = named l := by
  induction l with
  | nil => rfl
  | cons s l ih =>
    by_cases idle : isIdle s = true
    · simpa only [named, List.dropWhile_cons, List.filter_cons, idle, if_true, Bool.not_true,
        Bool.false_eq_true, if_false] using ih
    · simp only [List.dropWhile_cons, idle, Bool.false_eq_true, if_false]

theorem above_dropWhile (l : List String) : above (l.dropWhile isIdle) = above l := by
  induction l with
  | nil => rfl
  | cons s l ih =>
    by_cases idle : isIdle s = true
    · simp only [List.dropWhile_cons, idle, if_true, above, ih]
    · simp only [List.dropWhile_cons, idle, Bool.false_eq_true, if_false]

/-- What is above some pieces, the last one first: nothing if no component is among them, else what
is left without the last component, and what is above that. -/
theorem above_cases (l : List String) :
    (named l = [] ∧ above l = []) ∨
      ∃ s rest, named l = s :: named rest ∧ rest <:+ l ∧ above l = rest :: above rest := by
  induction l with
  | nil => exact .inl ⟨rfl, rfl⟩
  | cons s l ih =>
    by_cases idle : isIdle s = true
    · have skip : named (s :: l) = named l := by simp [named, idle]
      simp only [skip, above, idle, if_true]
      rcases ih with none | ⟨s', rest, names, suffix, same⟩
      · exact .inl none
      · exact .inr ⟨s', rest, names, suffix.trans (List.suffix_cons s l), same⟩
    · have keep : named (s :: l) = s :: named l := by simp [named, idle]
      refine .inr ⟨s, l.dropWhile isIdle, ?_,
        (List.dropWhile_suffix _).trans (List.suffix_cons s l), ?_⟩
      · rw [keep, named_dropWhile]
      · simp only [above, idle, Bool.false_eq_true, if_false, above_dropWhile]

theorem head?_above (l : List String) : (above l).head? = up? l := by
  induction l with
  | nil => rfl
  | cons s l ih =>
    rw [above, up?]
    split
    · exact ih
    · rfl

/-- The path next above a path is the first of the paths above it. -/
theorem parent?_eq (text : String) : parent? text = (ancestors text).tail.head? := by
  have first := head?_above (behind text)
  simp only [parent?, ancestors, List.cons_append, List.tail_cons, List.head?_append, List.head?_map,
    first]
  cases up? (behind text) with
  | some rest => rfl
  | none => cases isDotted text <;> rfl

theorem ancestors_rooted (rooted : isRooted text = true) :
    ancestors text = text :: (above (trail text).reverse).map fun rest => placeText rest.reverse := by
  obtain ⟨cs, whole⟩ := toList_of_rooted rooted
  have root : "/".length = 1 := rfl
  simp [ancestors, isDotted, front, behind, whole, rooted, trail, placeText, root]

/-- The pieces of a place's text are its own, but for the root, whose one piece is empty. -/
theorem above_trail (free : ∀ s ∈ l, '/' ∉ s.toList) :
    above (trail (placeText l)).reverse = above l.reverse ∧
      named (trail (placeText l)) = named l := by
  by_cases empty : l = []
  · subst empty
    exact ⟨rfl, rfl⟩
  · have same : trail (placeText l) = l := by
      have tail : (placeText l).toList.drop 1 = (String.intercalate "/" l).toList := by
        simp [placeText]
      rw [trail, tail, segments_intercalate empty free, List.map_map]
      exact List.map_id'' (fun s => String.ofList_toList) l
    rw [same]
    exact ⟨rfl, rfl⟩

/-- Only the root has nothing above it. From any other path one component is taken off, and what is
above it is the rest with all that is above the rest. -/
theorem parent?_cases (rooted : isRooted text = true) :
    (parent? text = none ∧ (Path.ofText text).parts = [] ∧ ancestors text = [text]) ∨
      ∃ up, parent? text = some up ∧ isRooted up = true ∧
        (Path.ofText up).parts = (Path.ofText text).parts.dropLast ∧
        (Path.ofText text).parts ≠ [] ∧ ancestors text = text :: ancestors up := by
  have all := ancestors_rooted rooted
  have parts : (Path.ofText text).parts = (named (trail text).reverse).reverse := by
    rw [ofText_rooted rooted, named, named, List.filter_reverse, List.reverse_reverse]
  rcases above_cases (trail text).reverse with ⟨names, none⟩ | ⟨s, rest, names, suffix, some⟩
  · rw [none] at all
    exact .inl ⟨by simp [parent?_eq, all], by simp [parts, names], all⟩
  · right
    have free : ∀ s ∈ rest.reverse, '/' ∉ s.toList := fun s hs =>
      trail_free s (List.mem_reverse.mp (suffix.subset (List.mem_reverse.mp hs)))
    obtain ⟨same, keeps⟩ := above_trail free
    rw [List.reverse_reverse] at same
    have root := isRooted_placeText rest.reverse
    rw [some] at all
    refine ⟨placeText rest.reverse, by simp [parent?_eq, all], root, ?_, by simp [parts, names], ?_⟩
    · rw [parts, names, ofText_rooted root, keeps]
      simp [named, List.filter_reverse]
    · rw [all, ancestors_rooted root, same, List.map_cons]

/-- **The paths above a rooted path** and the path itself, nearest first, are one for each beginning of
its components. -/
theorem ofText_ancestors (rooted : isRooted text = true) :
    (ancestors text).map Path.ofText =
      (Path.ofText text).parts.inits.reverse.map fun parts => ⟨true, parts⟩ := by
  -- One component less each time.
  induction size : (Path.ofText text).parts.length generalizing text with
  | zero =>
    have none := List.length_eq_zero_iff.mp size
    have whole : Path.ofText text = ⟨true, []⟩ := by
      rw [ofText_rooted rooted] at none ⊢
      exact congrArg (Path.mk true) none
    rcases parent?_cases rooted with ⟨-, -, all⟩ | ⟨up, -, -, -, some, -⟩
    · rw [all, List.map_singleton, whole]
      rfl
    · exact absurd none some
  | succ n ih =>
    rcases parent?_cases rooted with ⟨-, none, -⟩ | ⟨up, -, root, parts, some, all⟩
    · simp [none] at size
    · have fewer : (Path.ofText up).parts.length = n := by
        rw [parts, List.length_dropLast, size]
        rfl
      obtain ⟨init, last, whole⟩ := List.eq_nil_or_concat' (Path.ofText text).parts
        |>.resolve_left some
      have self : Path.ofText text = ⟨true, init ++ [last]⟩ := by
        rw [ofText_rooted rooted] at whole ⊢
        exact congrArg (Path.mk true) whole
      rw [all, List.map_cons, ih root fewer, parts, whole, self, List.dropLast_concat,
        List.inits_append]
      simp

end ModuleHost.File
