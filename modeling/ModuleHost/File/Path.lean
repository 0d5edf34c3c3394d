/-!
# Paths

A path is given as text. Read as components it is rooted or not, and has parts:
empty parts and parts that are a single dot are skipped, except a dot that begins a
path without a root. Two texts name the same path if their components agree;
nothing is looked up, so `..` stays. The paths above a path are texts (`ancestors`),
since a text may be too long to be followed. Going up makes a text shorter
(`length_parent?`), so it comes to an end.
-/
namespace ModuleHost.File

/-- The pieces between slashes. -/
def segments : List Char → List (List Char)
  | [] => [[]]
  | c :: r =>
    if c = '/' then [] :: segments r
    else match segments r with
      | s :: rest => (c :: s) :: rest
      | [] => [[c]]

def isRooted (text : String) : Bool := text.toList.head? == some '/'

structure Path where
  rooted : Bool
  parts : List String
  deriving DecidableEq, Repr

namespace Path

/-- The components of a text. -/
def ofText (text : String) : Path :=
  let pieces := (segments text.toList).map String.ofList
  let kept := pieces.filter fun s => s != "" && s != "."
  if isRooted text then ⟨true, kept⟩
  else if pieces.head? == some "." then ⟨false, "." :: kept⟩
  else ⟨false, kept⟩

/-- The last part, if it names a file. -/
def fileName? (p : Path) : Option String :=
  p.parts.getLast?.bind fun s => if s == "." || s == ".." then none else some s

end Path

/-! ## Texts of paths -/

/-- A piece that leads nowhere else. -/
def isIdle (piece : String) : Bool := piece == "" || piece == "."

/-- What is left above the pieces of a path, nearest first, each time without the idle ones at
its end. The pieces are given with the last one first. -/
def above : List String → List (List String)
  | [] => []
  | s :: rest => if isIdle s then above rest else rest.dropWhile isIdle :: above rest

/-- Whether a path without a root begins with a dot. -/
def isDotted (text : String) : Bool :=
  text.toList == ['.'] || ['.', '/'].isPrefixOf text.toList

/-- What stands before the pieces of a path. -/
def front (text : String) : String :=
  if isRooted text then "/" else if isDotted text then "." else ""

/-- The pieces behind it, the last one first. -/
def behind (text : String) : List String :=
  ((segments (text.toList.drop (front text).length)).map String.ofList).reverse

/-- The text of a path and the texts of the paths above it, nearest first: each is a beginning of
the one before it. A relative path ends in the empty text. -/
def ancestors (text : String) : List String :=
  text :: (above (behind text)).map (fun rest => front text ++ String.intercalate "/" rest.reverse)
    ++ if isDotted text then [""] else []

/-- A directory's text with a relative path after it. -/
def join (dir rest : String) : String :=
  if isRooted rest then rest
  else if dir.isEmpty || dir.toList.getLast? == some '/' then dir ++ rest
  else dir ++ "/" ++ rest

/-- The name without what follows its last dot; a dot in the first place does not count. -/
def stem (name : String) : String :=
  let rev := name.toList.reverse
  match rev.dropWhile (· != '.') with
  | _ :: c :: rest => String.ofList (c :: rest).reverse
  | _ => name

/-! ## Going up -/

/-- The first of what is left above some pieces. -/
def up? : List String → Option (List String)
  | [] => none
  | s :: rest => if isIdle s then up? rest else some (rest.dropWhile isIdle)

/-- The path next above a path: the text without its last component. -/
def parent? (text : String) : Option String :=
  match up? (behind text) with
  | some rest => some (front text ++ String.intercalate "/" rest.reverse)
  | none => if isDotted text then some "" else none

/-- How long some pieces are, each with a slash. -/
def weight : List String → Nat
  | [] => 0
  | s :: l => s.length + 1 + weight l

theorem length_intercalate (l : List String) :
    (String.intercalate "/" l).length = weight l - 1 := by
  induction l with
  | nil => rfl
  | cons s l ih =>
    cases l with
    | nil => simp [weight]
    | cons s' l =>
      rw [String.intercalate_cons_of_ne_nil (List.cons_ne_nil _ _), String.length_append,
        String.length_append, ih]
      simp only [weight]
      have one : "/".length = 1 := rfl
      omega

theorem weight_append (l l' : List String) : weight (l ++ l') = weight l + weight l' := by
  induction l with
  | nil => exact (Nat.zero_add _).symm
  | cons s l ih =>
    simp only [List.cons_append, weight, ih]
    omega

theorem weight_reverse (l : List String) : weight l.reverse = weight l := by
  induction l with
  | nil => rfl
  | cons s l ih =>
    rw [List.reverse_cons, weight_append, ih]
    simp only [weight]
    omega

theorem weight_segments (cs : List Char) :
    weight ((segments cs).map String.ofList) = cs.length + 1 := by
  induction cs with
  | nil => rfl
  | cons c r ih =>
    simp only [segments]
    split
    · simp only [List.map_cons, List.length_cons, weight, ih]
      simp
      omega
    · split
      · rename_i s rest h
        rw [h] at ih
        simp [weight] at ih ⊢
        omega
      · rename_i h
        rw [h] at ih
        cases ih

theorem weight_dropWhile (l : List String) : weight (l.dropWhile isIdle) ≤ weight l := by
  induction l with
  | nil => exact Nat.le_refl _
  | cons s l ih =>
    rw [List.dropWhile_cons]
    split
    · rw [weight]
      omega
    · exact Nat.le_refl _

theorem weight_up? {l rest : List String} (h : up? l = some rest) :
    weight rest + 2 ≤ weight l := by
  induction l with
  | nil => cases h
  | cons s l ih =>
    rw [up?] at h
    rw [weight]
    split at h
    · have := ih h
      omega
    · rename_i named
      have full : s.length ≠ 0 := fun none => by
        rw [String.length_eq_zero_iff] at none
        simp [isIdle, none] at named
      have := weight_dropWhile l
      cases h
      omega

theorem length_front (text : String) : (front text).length ≤ text.length := by
  have chars : text.toList.length = text.length := String.length_toList
  have one : "/".length = 1 ∧ ".".length = 1 ∧ "".length = 0 := ⟨rfl, rfl, rfl⟩
  unfold front isRooted isDotted
  cases whole : text.toList with
  | nil => simp [one]
  | cons c cs =>
    rw [← chars, whole, List.length_cons]
    split
    · omega
    · split <;> omega

theorem length_parent? {text up : String} (h : parent? text = some up) :
    up.length < text.length := by
  have chars : text.toList.length = text.length := String.length_toList
  have fits := length_front text
  unfold parent? at h
  split at h
  · rename_i rest above
    cases h
    have lighter := weight_up? above
    rw [behind, weight_reverse, weight_segments, List.length_drop, chars] at lighter
    rw [String.length_append, length_intercalate, weight_reverse]
    omega
  · split at h
    · rename_i dotted
      cases h
      rw [← chars, String.length_empty, List.length_pos_iff]
      intro none
      simp [isDotted, none] at dotted
    · cases h

end ModuleHost.File
