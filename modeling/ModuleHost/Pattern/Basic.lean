import ModuleHost.Pattern.Bracket
import ModuleHost.Text.Letters

/-!
# Search patterns

A search pattern is a regular expression: alternatives between bars, each a sequence
of atoms, sets in brackets and groups in parentheses, any of them repeated with `?`,
`*` or `+`. A group may have a name of its own or flags. Counts in braces do not
exist.

Nothing is searched here. `isPattern` says which texts are patterns: those that can be
read in the mode that their flags make, and whose parts are nested no deeper than
`heightLimit`.
-/
namespace ModuleHost.Pattern

open Text

/-- How deep the parts of a pattern may be nested. -/
def heightLimit : Nat := 250

/-- What can be repeated, with its height, or flags, which cannot. -/
inductive Piece where
  | part (height : Nat)
  | flags
  deriving DecidableEq, Repr

def Piece.height : Piece → Nat
  | .part h => h
  | .flags => 0

/-- Reads the name of a group up to its closing angle bracket. -/
def readName (cs : List Char) : Option (List Char × List Char) :=
  match cs.takeWhile (· != '>'), cs.dropWhile (· != '>') with
  | c :: name, '>' :: r =>
    if (c == '_' || isAlphabetic c)
        && name.all fun c => ['_', '.', '[', ']'].contains c || isAlphanumeric c
    then some (c :: name, r) else none
  | _, _ => none

/-- How a group begins. -/
inductive GroupOpening where
  | group (m : Mode) (name : Option (List Char)) (rest : List Char)
  /-- Flags for what follows, and no group. -/
  | flags (m : Mode) (rest : List Char)

/-- Reads what follows an opening parenthesis. There is no looking ahead or behind. -/
def readGroupOpening (m : Mode) (cs : List Char) : Option GroupOpening :=
  match m.skip cs with
  | '?' :: '=' :: _ | '?' :: '!' :: _ | '?' :: '<' :: '=' :: _ | '?' :: '<' :: '!' :: _ => none
  | '?' :: 'P' :: '<' :: r | '?' :: '<' :: r =>
    (readName r).map fun (name, r) => .group m (some name) r
  | '?' :: r =>
    (readFlags m [] false false r).map fun e =>
      if e.colon then .group e.mode none e.rest else .flags e.mode e.rest
  | r => some (.group m none r)

/-- An alternative that has been read, and those before it. -/
structure Alternatives where
  /-- The heights of those that have ended. -/
  ended : List Nat := []
  /-- The pieces of the current one, the last first. -/
  pieces : List Piece := []

namespace Alternatives

def current (a : Alternatives) : Nat := heightOf (a.pieces.map Piece.height)

def height (a : Alternatives) : Nat := heightOf (a.current :: a.ended)

def add (a : Alternatives) (p : Piece) : Alternatives := { a with pieces := p :: a.pieces }

/-- Ends the current alternative. -/
def next (a : Alternatives) : Alternatives := { ended := a.current :: a.ended }

/-- Repeats the last piece. -/
def repeat? (a : Alternatives) : Option Alternatives :=
  match a.pieces with
  | .part h :: rest => some { a with pieces := .part (h + 1) :: rest }
  | _ => none

end Alternatives

/-- What a group, or the whole pattern, comes to. -/
structure Reading where
  height : Nat
  /-- The names that are taken. -/
  names : List (List Char)
  rest : List Char

def dropLazy : List Char → List Char
  | '?' :: r => r
  | cs => cs

/-- Reads alternatives up to a closing parenthesis in a group, else to the end. -/
def readAlternatives : (fuel : Nat) → Mode → (inGroup : Bool) → (names : List (List Char)) →
    Alternatives → List Char → Option Reading
  | 0, _, _, _, _, _ => none
  | fuel + 1, m, inGroup, names, a, cs =>
    match m.skip cs with
    | [] => if inGroup then none else some ⟨a.height, names, []⟩
    | ')' :: r => if inGroup then some ⟨a.height, names, r⟩ else none
    | '|' :: r => readAlternatives fuel m inGroup names a.next r
    | '(' :: r => do
      match ← readGroupOpening m r with
      | .flags m r => readAlternatives fuel m inGroup names (a.add .flags) r
      | .group inner name r =>
        if name.any names.contains then none
        let g ← readAlternatives fuel inner true (name.toList ++ names) {} r
        readAlternatives fuel m inGroup g.names (a.add (.part (g.height + 1))) g.rest
    | '[' :: r => do
      let (h, r) ← readBracket m r
      readAlternatives fuel m inGroup names (a.add (.part h)) r
    | '?' :: r | '*' :: r | '+' :: r => do
      readAlternatives fuel m inGroup names (← a.repeat?) (dropLazy r)
    | '\x7b' :: _ => none
    | '\\' :: r => do
      let (atom, r) ← readEscape m r
      if atom.isAllowed m then readAlternatives fuel m inGroup names (a.add (.part 0)) r else none
    | c :: r =>
      let atom : Atom := match c with
        | '.' => .anything
        | '^' | '$' => .anchor
        | c => .literal c false
      if atom.isAllowed m then readAlternatives fuel m inGroup names (a.add (.part 0)) r else none

/-- Whether a text is a search pattern. -/
def isPattern (text : String) : Bool :=
  let cs := text.toList
  (readAlternatives (cs.length + 1) {} false [] {} cs).any fun r => decide (r.height ≤ heightLimit)

end ModuleHost.Pattern
