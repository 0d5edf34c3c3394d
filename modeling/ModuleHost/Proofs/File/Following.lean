import ModuleHost.File.Tree
import ModuleHost.Proofs.File.Names

/-!
# Following paths

A path that goes on behind a directory is followed from there, with the links that are left
(`Tree.walkLinks_append`). So the path of a name in a directory leads somewhere only if the directory
has that entry (`Tree.child?_of_exists`), and of an entry it can be said what it takes to be led to
(`Tree.exists_iff_of_child?`). A file that was written is found under its path (`Tree.read?_write?`).
-/
namespace ModuleHost.File.Tree

open Text

variable {t t' : Tree} {dir name path : String} {p : Place} {n : Node} {more : List String}

/-! ## Going on behind a directory -/

/-- What the rest of a path leads to, where its beginning leads to `found`: from a directory the rest
is followed on its own through `k` links at most, and from nowhere else it leads to anything. -/
structure Onward (t : Tree) (k : Nat) (more : List String) (found next : Found) : Prop where
  inside : ∀ p, found = .node p .directory → ∃ j ≤ k, next = t.walkLinks j p more
  outside : (∀ p, found ≠ .node p .directory) → ∀ p n, next ≠ .node p n

theorem walk_append {follow : Place → List String → Found} {k : Nat} (some : more ≠ [])
    (self : t.walk follow = t.walkLinks k)
    (inner : ∀ dir l, t.Onward k more (follow dir l) (follow dir (l ++ more))) (l : List String) :
    ∀ dir, t.Onward k more (t.walk follow dir l) (t.walk follow dir (l ++ more)) := by
  induction l with
  | nil =>
    intro dir
    refine ⟨fun p found => ⟨k, Nat.le_refl k, ?_⟩, fun none => absurd rfl (none dir)⟩
    cases found
    rw [List.nil_append, self]
  | cons s l ih =>
    intro dir
    have behind : (l ++ more).isEmpty = false := by simp [some]
    simp only [List.cons_append, walk, behind, Bool.false_eq_true, if_false]
    split
    · exact ih dir
    split
    · exact ⟨by simp, by simp⟩
    split
    · exact ih dir
    split
    · exact ih dir.dropLast
    split
    · split
      · exact ⟨by simp, by simp⟩
      · exact ⟨by split <;> simp, by simp⟩
    · exact ih (dir ++ [s])
    · exact ⟨by split <;> simp, by simp⟩
    · rw [← List.append_assoc]
      exact inner _ _

/-- What is behind a directory is followed from there, with the links that are left. -/
theorem walkLinks_append (some : more ≠ []) (l : List String) :
    ∀ k dir, t.Onward k more (t.walkLinks k dir l) (t.walkLinks k dir (l ++ more)) := by
  intro k
  induction k generalizing l with
  | zero => exact walk_append some rfl (fun _ _ => ⟨by simp, by simp⟩) l
  | succ k ih =>
    refine walk_append some rfl (fun dir l => ?_) l
    obtain ⟨inside, outside⟩ := ih l dir
    refine ⟨fun p found => ?_, outside⟩
    obtain ⟨j, few, next⟩ := inside p found
    exact ⟨j, Nat.le_succ_of_le few, next⟩

theorem walkLinks_slash (k : Nat) (l : List String) (dir p : Place) :
    t.walkLinks k dir (l ++ [""]) = .node p .directory ↔ t.walkLinks k dir l = .node p .directory := by
  have onward := t.walkLinks_append (List.cons_ne_nil "" []) l k dir
  have stays (k : Nat) (q : Place) : t.walkLinks k q [""] = .node q .directory := by
    cases k <;> simp [walkLinks, walk]
  by_cases there : ∃ q, t.walkLinks k dir l = .node q .directory
  · obtain ⟨q, found⟩ := there
    obtain ⟨k', -, next⟩ := onward.inside q found
    rw [next, stays, found]
  · rw [not_exists] at there
    exact ⟨fun next => absurd next (onward.outside there p .directory),
      fun found => absurd found (there p)⟩

/-! ## Links and what is shut -/

/-- Where a walk that takes over at links either gives up or goes on alike, it does so itself. -/
theorem walk_or {stop : Found} {follow follow' : Place → List String → Found}
    (nodes : ∀ q, t'.node? q = t.node? q)
    (shut : ∀ q, t'.isShut q = t.isShut q ∨ t.isShut q = true ∧ stop = .denied)
    (inner : ∀ dir l, follow dir l = stop ∨ follow' dir l = follow dir l) (l : List String) :
    ∀ dir, t.walk follow dir l = stop ∨ t'.walk follow' dir l = t.walk follow dir l := by
  induction l with
  | nil => exact fun dir => .inr rfl
  | cons s l ih =>
    intro dir
    simp only [walk, nodes]
    split
    · exact ih dir
    rcases shut dir with same | ⟨here, rfl⟩
    · rw [same]
      split
      · exact .inr rfl
      split
      · exact ih dir
      split
      · exact ih dir.dropLast
      split
      · exact .inr rfl
      · exact ih (dir ++ [s])
      · exact .inr rfl
      · exact inner _ _
    · rw [if_pos here]
      exact .inl rfl

/-- Where a path leads does not depend on how many links it may go through, if there are enough. -/
theorem walkLinks_of_le {j k : Nat} (few : j ≤ k) (l : List String) (dir : Place) :
    t.walkLinks j dir l = .tangled ∨ t.walkLinks k dir l = t.walkLinks j dir l := by
  induction j generalizing k l dir with
  | zero =>
    cases k <;> exact walk_or (fun _ => rfl) (fun _ => .inl rfl) (fun _ _ => .inl rfl) l dir
  | succ j ih =>
    obtain ⟨k, rfl⟩ : ∃ m, k = m + 1 := ⟨k - 1, by omega⟩
    exact walk_or (fun _ => rfl) (fun _ => .inl rfl)
      (fun dir l => ih (Nat.le_of_succ_le_succ few) l dir) l dir

/-- The tree with nothing shut. -/
def opened (t : Tree) : Tree := { t with shut := [] }

theorem isShut_opened (t : Tree) (p : Place) : t.opened.isShut p = false := rfl

/-- Where a path is not denied, it leads where it would if nothing were shut. -/
theorem find_opened (t : Tree) (path : String) :
    t.find path = .denied ∨ t.opened.find path = t.find path := by
  have shut (q : Place) : t.opened.isShut q = t.isShut q ∨
      t.isShut q = true ∧ Found.denied = .denied := by
    cases here : t.isShut q
    · exact .inl (t.isShut_opened q)
    · exact .inr ⟨rfl, rfl⟩
  have links : ∀ k l dir, t.walkLinks k dir l = .denied ∨
      t.opened.walkLinks k dir l = t.walkLinks k dir l := by
    intro k
    induction k with
    | zero => exact walk_or (fun _ => rfl) shut fun _ _ => .inr rfl
    | succ k ih => exact walk_or (fun _ => rfl) shut fun dir l => ih l dir
  unfold find
  split
  · exact .inr rfl
  split
  · exact .inr rfl
  · exact links _ _ _

/-! ## The entries of a directory -/

/-- Whether a text is the name of an entry: a piece of a path that is followed downwards. -/
def IsName (name : String) : Prop :=
  isRooted name = false ∧ '/' ∉ name.toList ∧ '\x00' ∉ name.toList ∧ name ∉ ["", ".", ".."]

/-- The entry of that name in the directory that a path leads to, be it shut or not; a link is not
followed. -/
def child? (t : Tree) (dir name : String) : Option Node :=
  match t.opened.find dir with
  | .node p .directory => t.node? (p ++ [name])
  | _ => none

theorem walkLinks_name (plain : IsName name) (clear : t.isShut p = false) (k : Nat) :
    t.walkLinks k p [name] = match t.node? (p ++ [name]) with
      | none => if name.utf8ByteSize > nameLimit then .barred else .vacant (p ++ [name])
      | some (.link target) =>
        match k with
        | 0 => .tangled
        | k + 1 => t.walkLinks k (if isRooted target then [] else p) (pieces target)
      | some n => .node (p ++ [name]) n := by
  obtain ⟨-, -, -, listed⟩ := plain
  simp only [List.mem_cons, List.not_mem_nil, or_false, not_or] at listed
  obtain ⟨full, dotless, below⟩ := listed
  cases entry : t.node? (p ++ [name]) with
  | none => cases k <;> simp [walkLinks, walk, full, dotless, below, clear, entry]
  | some n =>
    cases n <;> cases k <;> simp [walkLinks, walk, full, dotless, below, clear, entry]

theorem pieces_join (full : dir ≠ "") (plain : IsName name) : ∃ l,
    pieces (join dir name) = l ++ [name] ∧ (pieces dir = l ∨ pieces dir = l ++ [""]) := by
  obtain ⟨relative, free, -⟩ := plain
  rcases toList_join dir relative with ⟨empty, -⟩ | ⟨d, same, -, whole⟩
  · exact absurd empty full
  refine ⟨(segments d).map String.ofList, ?_, ?_⟩
  · rw [pieces, whole, segments_append_slash, segments_of_free free]
    simp
  · rcases same with same | same
    · exact .inl (by rw [pieces, same])
    · exact .inr (by rw [pieces, same, segments_append_slash]; simp [segments])

theorem join_eq (relative : isRooted name = false) (dir : String) :
    ∃ slash, (slash = "" ∨ slash = "/") ∧ join dir name = dir ++ (slash ++ name) := by
  simp only [join, relative, Bool.false_eq_true, if_false]
  split
  · exact ⟨"", .inl rfl, by rw [String.empty_append]⟩
  · exact ⟨"/", .inr rfl, by rw [String.append_assoc]⟩

theorem isRooted_join (full : dir ≠ "") (relative : isRooted name = false) :
    isRooted (join dir name) = isRooted dir := by
  obtain ⟨slash, -, text⟩ := join_eq relative dir
  obtain ⟨c, cs, chars⟩ : ∃ c cs, dir.toList = c :: cs :=
    List.exists_cons_of_ne_nil fun none => full (String.ext none)
  simp [isRooted, text, chars]

theorem join_ne_empty (full : dir ≠ "") (relative : isRooted name = false) : join dir name ≠ "" := by
  obtain ⟨slash, -, text⟩ := join_eq relative dir
  rw [text]
  exact fun none => full (String.append_eq_empty_iff.mp none).1

/-- Whether the text of a path can be followed at all. -/
def IsLegal (path : String) : Prop := path.utf8ByteSize < pathLimit ∧ '\x00' ∉ path.toList

instance (path : String) : Decidable (IsLegal path) := inferInstanceAs (Decidable (_ ∧ _))

theorem find_eq (full : path ≠ "") :
    t.find path = if IsLegal path then t.follow t.current path else .barred := by
  have full : path.isEmpty = false := by simpa using full
  by_cases legal : IsLegal path
  · obtain ⟨short, clean⟩ := legal
    simp [find, IsLegal, full, short, clean, Nat.not_le.mpr short]
  · have bad : (path.utf8ByteSize ≥ pathLimit || path.toList.contains '\x00') = true := by
      rw [IsLegal, not_and_or, Nat.not_lt, not_not] at legal
      simpa using legal
    simp only [find, full, bad, Bool.false_eq_true, if_false, if_true, if_neg legal]

theorem IsLegal.above (plain : IsName name) (legal : IsLegal (join dir name)) : IsLegal dir := by
  obtain ⟨short, clean⟩ := legal
  obtain ⟨slash, -, text⟩ := join_eq plain.1 dir
  rw [text, String.utf8ByteSize_append] at short
  rw [text, String.toList_append] at clean
  exact ⟨by omega, fun h => clean (List.mem_append_left _ h)⟩

theorem find_join (full : dir ≠ "") (plain : IsName name) (legal : IsLegal (join dir name)) :
    ∃ l start, t.find (join dir name) = t.walkLinks linkLimit start (l ++ [name]) ∧
      ∀ p, t.find dir = .node p .directory ↔ t.walkLinks linkLimit start l = .node p .directory := by
  obtain ⟨l, whole, above⟩ := pieces_join full plain
  have root := isRooted_join full plain.1
  refine ⟨l, if isRooted dir then [] else t.current, ?_, fun p => ?_⟩
  · rw [find_eq (join_ne_empty full plain.1), if_pos legal, follow, root, whole]
  · rw [find_eq full, if_pos (legal.above plain), follow]
    rcases above with same | same
    · rw [same]
    · rw [same, walkLinks_slash]

/-- Where the path of a directory leads to it, the path of a name in it goes on from there. -/
theorem find_join_of_directory (full : dir ≠ "") (plain : IsName name)
    (legal : IsLegal (join dir name)) (found : t.find dir = .node p .directory) :
    ∃ j ≤ linkLimit, t.find (join dir name) = t.walkLinks j p [name] := by
  obtain ⟨l, start, path, up⟩ := find_join (t := t) full plain legal
  rw [path]
  exact (t.walkLinks_append (List.cons_ne_nil name []) l linkLimit start).inside p ((up p).mp found)

theorem exists?_iff : t.exists? path = true ↔ ∃ q n, t.find path = .node q n := by
  rw [exists?]
  cases t.find path <;> simp

/-- What the path of a name in a directory leads to comes from an entry of that directory. -/
theorem child?_of_exists (full : dir ≠ "") (plain : IsName name)
    (there : t.exists? (join dir name) = true) : (t.child? dir name).isSome := by
  obtain ⟨q, n, next⟩ := exists?_iff.mp there
  have next : t.opened.find (join dir name) = .node q n := by
    rcases t.find_opened (join dir name) with denied | same
    · cases next.symm.trans denied
    · exact same.trans next
  have legal : IsLegal (join dir name) := by
    by_contra illegal
    rw [find_eq (join_ne_empty full plain.1), if_neg illegal] at next
    cases next
  obtain ⟨l, start, path, up⟩ := find_join (t := t.opened) full plain legal
  have onward := t.opened.walkLinks_append (List.cons_ne_nil name []) l linkLimit start
  rw [path] at next
  by_cases inside : ∃ p, t.opened.walkLinks linkLimit start l = .node p .directory
  · obtain ⟨p, found⟩ := inside
    obtain ⟨j, -, rest⟩ := onward.inside p found
    rw [rest, walkLinks_name plain (t.isShut_opened p)] at next
    simp only [child?, (up p).mpr found]
    cases entry : t.node? (p ++ [name]) with
    | some n => rfl
    | none =>
      have entry : t.opened.node? (p ++ [name]) = none := entry
      simp only [entry] at next
      split at next <;> cases next
  · rw [not_exists] at inside
    exact absurd next (onward.outside inside q n)

/-- Whether a link in a directory leads to anything, leaving aside what is shut. -/
def Leads (t : Tree) (dir target : String) : Prop :=
  ∃ p q n, t.opened.find dir = .node p .directory ∧ t.opened.follow p target = .node q n

theorem clean_join (full : dir ≠ "") (plain : IsName name) (found : t.find dir = .node p n) :
    '\x00' ∉ (join dir name).toList := by
  have above : '\x00' ∉ dir.toList := fun bad => by
    rw [find_eq full, if_neg fun legal => legal.2 bad] at found
    cases found
  obtain ⟨slash, either, text⟩ := join_eq plain.1 dir
  rw [text]
  rcases either with rfl | rfl <;> simp [above, plain.2.2.1]

/-- A path that comes to a link with `j` links left leads where the link does, if these are enough. -/
theorem exists_iff_leads {target : String} {j : Nat} (few : j ≤ linkLimit)
    (found : t.opened.find dir = .node p .directory)
    (rest : t.find path = t.opened.walkLinks j (if isRooted target then [] else p) (pieces target)) :
    t.exists? path = true ↔
      t.Leads dir target ∧ t.find path ≠ .tangled ∧ t.find path ≠ .denied := by
  have enough := t.opened.walkLinks_of_le few (pieces target) (if isRooted target then [] else p)
  constructor
  · intro there
    obtain ⟨q, n, node⟩ := exists?_iff.mp there
    have more := rest.symm.trans node
    refine ⟨⟨p, q, n, found, ?_⟩, by simp [node], by simp [node]⟩
    rcases enough with tangled | alike
    · cases more.symm.trans tangled
    · exact alike.trans more
  · rintro ⟨⟨p', q, n, found', leads⟩, loose, -⟩
    cases found.symm.trans found'
    rcases enough with tangled | alike
    · exact absurd (rest.trans tangled) loose
    · exact exists?_iff.mpr ⟨q, n, rest.trans (alike.symm.trans leads)⟩

/-- **An entry of a directory is led to** by its path, unless it is a link that leads nowhere, the path
is too long, or it goes through too many links or through a directory that is shut. -/
theorem exists_iff_of_child? (full : dir ≠ "") (plain : IsName name)
    (entry : t.child? dir name = some n) : t.exists? (join dir name) = true ↔
      (∀ target, n = .link target → t.Leads dir target) ∧
        (join dir name).utf8ByteSize < pathLimit ∧
        t.find (join dir name) ≠ .tangled ∧ t.find (join dir name) ≠ .denied := by
  obtain ⟨p, found, entry⟩ : ∃ p, t.opened.find dir = .node p .directory ∧
      t.opened.node? (p ++ [name]) = some n := by
    unfold child? at entry
    split at entry
    · rename_i p found
      exact ⟨p, found, entry⟩
    · cases entry
  have clean := clean_join full plain found
  by_cases short : (join dir name).utf8ByteSize < pathLimit
  · obtain ⟨j, few, rest⟩ := find_join_of_directory full plain ⟨short, clean⟩ found
    rw [walkLinks_name plain (t.isShut_opened p), entry] at rest
    rcases t.find_opened (join dir name) with denied | same
    · simp [exists?, denied]
    rw [same] at rest
    cases n with
    | directory | file => simp [exists?, rest, short]
    | link target =>
      simp only [Node.link.injEq, forall_eq', short, true_and]
      cases j with
      | zero => simp [exists?, rest]
      | succ j => exact exists_iff_leads (Nat.le_of_succ_le few) found rest
  · have barred : t.find (join dir name) = .barred := by
      rw [find_eq (join_ne_empty full plain.1), if_neg fun legal => short legal.1]
    simp [exists?, barred, short]

/-! ## Writing -/

/-- Whether a path can be written to: it leads to a file that is not shut, or to where one can be
made. -/
def IsWritable (t : Tree) (path : String) : Prop :=
  (∃ p m b, t.find path = .node p (.file m b) ∧ t.isShut p = false) ∨ ∃ p, t.find path = .vacant p

/-- Whether a path has come to place `p`, where a file is or can be made. -/
def ComesTo (p : Place) : Found → Prop
  | .vacant q => q = p
  | .node q (.file ..) => q = p
  | _ => False

/-- Where a file is or can be made, there is nothing else. -/
def IsFree (t : Tree) (p : Place) : Prop := t.node? p = none ∨ ∃ m b, t.node? p = some (.file m b)

theorem IsFree.below (free : t.IsFree p) : p ≠ [] := by
  rintro rfl
  rcases free with none | ⟨m, b, file⟩
  · cases none
  · cases file

theorem walk_free {follow : Place → List String → Found}
    (inner : ∀ dir l, ComesTo p (follow dir l) → t.IsFree p) (l : List String) :
    ∀ dir, ComesTo p (t.walk follow dir l) → t.IsFree p := by
  induction l with
  | nil => exact fun dir => False.elim
  | cons s l ih =>
    intro dir
    simp only [walk]
    split
    · exact ih dir
    split
    · exact False.elim
    split
    · exact ih dir
    split
    · exact ih dir.dropLast
    split
    · rename_i none
      split
      · exact False.elim
      split
      · rintro rfl
        exact .inl none
      · exact False.elim
    · exact ih (dir ++ [s])
    · rename_i m b file
      split
      · rintro rfl
        exact .inr ⟨m, b, file⟩
      · exact False.elim
    · exact inner _ _

theorem find_free (comes : ComesTo p (t.find path)) : t.IsFree p := by
  have links : ∀ k l dir, ComesTo p (t.walkLinks k dir l) → t.IsFree p := by
    intro k
    induction k with
    | zero => exact fun l => walk_free (fun _ _ => False.elim) l
    | succ k ih => exact fun l => walk_free (fun dir l => ih l dir) l
  unfold find at comes
  split at comes
  · exact comes.elim
  split at comes
  · exact comes.elim
  · exact links _ _ _ comes

theorem lookup_filter_of_ne {q : Place} (other : q ≠ p) (l : List (Place × Node)) :
    (l.filter (·.1 != p)).lookup q = l.lookup q := by
  induction l with
  | nil => rfl
  | cons e l ih =>
    obtain ⟨q', n'⟩ := e
    by_cases here : q' = p
    · have apart : (q == p) = false := by simp [other]
      simp only [here, List.filter_cons, bne_self_eq_false, Bool.false_eq_true, if_false, ih,
        List.lookup_cons, apart]
    · simp only [List.filter_cons, bne_iff_ne, ne_eq, here, not_false_eq_true, if_true,
        List.lookup_cons, ih]

theorem node?_put (below : p ≠ []) (q : Place) :
    (t.put p n).node? q = if q = p then some n else t.node? q := by
  by_cases here : q = p
  · subst here
    simp [node?, put, below]
  · have apart : (q == p) = false := by simp [here]
    simp only [node?, put, List.lookup_cons, apart, if_neg here, lookup_filter_of_ne here]

/-- A path that came to a place where a file is or can be made comes to the file that was put there:
on its way it met nothing that has changed, or was shut. -/
theorem walk_put {follow follow' : Place → List String → Found} {m : Nat} {b : Bytes}
    (free : t.IsFree p) (here : t'.node? p = some (.file m b))
    (others : ∀ q, q ≠ p → t'.node? q = t.node? q)
    (clear : ∀ q, t.isShut q = false → t'.isShut q = false)
    (inner : ∀ dir l, ComesTo p (follow dir l) → follow' dir l = .node p (.file m b))
    (l : List String) :
    ∀ dir, ComesTo p (t.walk follow dir l) → t'.walk follow' dir l = .node p (.file m b) := by
  induction l with
  | nil => exact fun dir => False.elim
  | cons s l ih =>
    intro dir
    simp only [walk]
    split
    · exact ih dir
    split
    · exact False.elim
    rename_i entered
    rw [clear dir (by simpa using entered)]
    simp only [Bool.false_eq_true, if_false]
    split
    · exact ih dir
    split
    · exact ih dir.dropLast
    by_cases last : dir ++ [s] = p
    · rw [last, here]
      rcases free with none | ⟨m', b', old⟩
      · simp only [none]
        split
        · exact False.elim
        split
        · exact fun _ => rfl
        · exact False.elim
      · simp only [old]
        split
        · exact fun _ => rfl
        · exact False.elim
    · rw [others _ last]
      split
      · split
        · exact False.elim
        split
        · exact fun comes => absurd comes last
        · exact False.elim
      · exact ih (dir ++ [s])
      · split
        · exact fun comes => absurd comes last
        · exact False.elim
      · exact inner _ _

theorem find_put {m : Nat} {b : Bytes} (comes : ComesTo p (t.find path))
    (current : t'.current = t.current) (here : t'.node? p = some (.file m b))
    (others : ∀ q, q ≠ p → t'.node? q = t.node? q)
    (clear : ∀ q, t.isShut q = false → t'.isShut q = false) : t'.find path = .node p (.file m b) := by
  have free := find_free comes
  have links : ∀ k l dir, ComesTo p (t.walkLinks k dir l) →
      t'.walkLinks k dir l = .node p (.file m b) := by
    intro k
    induction k with
    | zero => exact fun l => walk_put free here others clear (fun _ _ => False.elim) l
    | succ k ih => exact fun l => walk_put free here others clear (fun dir l => ih l dir) l
  unfold find at comes ⊢
  split at comes
  · exact comes.elim
  split at comes
  · exact comes.elim
  · rename_i some legal
    rw [if_neg some, if_neg legal, follow, current]
    exact links _ _ _ comes

theorem isShut_put (q : Place) : (t.put p n).isShut q = (t.isShut q && q != p) := by
  rw [Bool.eq_iff_iff]
  simp [isShut, put]

theorem find_put_file {m : Nat} {b : Bytes} (comes : ComesTo p (t.find path)) (k : Nat) :
    (put { t with next := k } p (.file m b)).find path = .node p (.file m b) := by
  have root := (find_free comes).below
  refine find_put comes rfl (by rw [node?_put root, if_pos rfl]) (fun q ne => ?_) fun q open_ => ?_
  · rw [node?_put root, if_neg ne]
    rfl
  · have same : (put { t with next := k } p (.file m b)).isShut q = (t.isShut q && q != p) :=
      isShut_put q
    rw [same, open_, Bool.false_and]

/-- **What was written is found**: the path of a write leads to a file with the bytes written, which
is not shut. -/
theorem find_write? {bytes : Bytes} (written : t.write? path bytes = some t') :
    ∃ p m, t'.find path = .node p (.file m bytes) ∧ t'.isShut p = false := by
  unfold write? at written
  split at written
  · rename_i p m b found
    split at written
    · cases written
    cases written
    refine ⟨p, m, find_put_file (by rw [found]; rfl) t.next, ?_⟩
    rw [isShut_put, bne_self_eq_false, Bool.and_false]
  · rename_i p found
    cases written
    refine ⟨p, t.next, find_put_file (by rw [found]; rfl) (t.next + 1), ?_⟩
    rw [isShut_put, bne_self_eq_false, Bool.and_false]
  · cases written

theorem read?_write? {bytes : Bytes} (written : t.write? path bytes = some t') :
    t'.read? path = some bytes := by
  obtain ⟨p, m, found, clear⟩ := find_write? written
  simp [read?, file?, found, clear]

theorem exists?_of_read? {bytes : Bytes} (held : t.read? path = some bytes) : t.exists? path = true := by
  rw [read?, file?] at held
  rw [exists?]
  cases found : t.find path <;> simp [found] at held ⊢

theorem write?_of_isWritable (writable : t.IsWritable path) (bytes : Bytes) :
    ∃ t', t.write? path bytes = some t' := by
  unfold write?
  rcases writable with ⟨p, m, b, found, clear⟩ | ⟨p, found⟩
  · simp [found, clear]
  · simp [found]

/-- Whether a path can be written to does not depend on what is written. -/
theorem isSome_write? (t : Tree) (path : String) (first bytes : Bytes) :
    (t.write? path first).isSome = (t.write? path bytes).isSome := by
  unfold write?
  split
  · split <;> rfl
  · rfl
  · rfl

theorem put_put {n' : Node} : (t.put p n).put p n' = t.put p n' := by
  simp [put, List.filter_filter]

/-- Writing twice leaves what the second write leaves by itself. -/
theorem write?_write? {first : Bytes} (written : t.write? path first = some t') (bytes : Bytes) :
    t'.write? path bytes = t.write? path bytes := by
  obtain ⟨q, m, again, clear⟩ := find_write? written
  unfold write? at written
  split at written
  · rename_i p m b found
    split at written
    · cases written
    rename_i before
    cases written
    cases (find_put_file (m := m) (b := first) (by rw [found]; rfl) t.next).symm.trans again
    simp only [write?, found, again, clear, before, Bool.false_eq_true, if_false, put_put]
  · rename_i p found
    cases written
    cases (find_put_file (t := t) (p := p) (m := t.next) (b := first) (by rw [found]; rfl)
      (t.next + 1)).symm.trans again
    simp only [write?, found, again, clear, Bool.false_eq_true, if_false, put_put]
  · cases written

end ModuleHost.File.Tree
