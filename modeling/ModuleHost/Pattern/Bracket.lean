import ModuleHost.Pattern.Atom

/-!
# Sets between brackets

A set has members: characters, ranges, named sets such as `[:alpha:]`, and sets in
brackets of their own. `&&`, `--` and `~~` join what is left and right of them, from
the left. A caret at the beginning takes the complement, dashes there are members,
and so is a closing bracket in the first place.

Reading a set gives its height: how deep its parts are nested. A set and each
operator count, and so do members that are more than one.
-/
namespace ModuleHost.Pattern

open Text

/-- The height of parts side by side, given by their heights. -/
def heightOf : List Nat → Nat
  | [] => 0
  | [h] => h
  | hs => hs.foldl Nat.max 0 + 1

def classNames : List String :=
  ["alnum", "alpha", "ascii", "blank", "cntrl", "digit", "graph", "lower", "print", "punct", "space",
    "upper", "word", "xdigit"]

/-- Reads the rest of a named set after its first bracket: whether it is a complement, and what
follows it. -/
def readNamed? : List Char → Option (Bool × List Char)
  | ':' :: cs =>
    let (negated, cs) := match cs with
      | '^' :: r => (true, r)
      | cs => (false, cs)
    match cs.dropWhile (· != ':') with
    | ':' :: ']' :: r =>
      if classNames.contains (String.ofList (cs.takeWhile (· != ':'))) then some (negated, r) else none
    | _ => none
  | _ => none

/-- Whether a set may be the complement of what is written: of bytes, it would have some past
0x7F. -/
def Mode.allowsComplement (m : Mode) (negated : Bool) : Bool := m.unicode || !negated

def Mode.allowsNamed (m : Mode) (negated : Bool) : Bool :=
  if m.unicode then !m.caseless else !negated

/-- Reads the dashes at the beginning of a set: their number. -/
def readDashes (m : Mode) : (fuel : Nat) → List Char → Nat × List Char
  | 0, cs => (0, cs)
  | fuel + 1, cs =>
    match cs with
    | '-' :: r =>
      let (n, r) := readDashes m fuel (m.skip r)
      (n + 1, r)
    | cs => (0, cs)

/-- How a set begins. -/
structure SetOpening where
  negated : Bool
  /-- How many of the first characters are members. -/
  members : Nat
  rest : List Char

/-- Reads the beginning of a set after its bracket. -/
def readOpening (m : Mode) (cs : List Char) : SetOpening :=
  let cs := m.skip cs
  let (negated, cs) := match cs with
    | '^' :: r => (true, m.skip r)
    | cs => (false, cs)
  match readDashes m cs.length cs with
  | (0, ']' :: r) => ⟨negated, 1, m.skip r⟩
  | (n, r) => ⟨negated, n, r⟩

/-- The next character that stands for something, as far as a look ahead goes: of a comment it sees
the first character. -/
def peek? (m : Mode) (cs : List Char) : Option Char :=
  if !m.spaced then cs.head?
  else match cs.dropWhile isBlank with
    | '#' :: r => (r.dropWhile isBlank).head?
    | r => r.head?

/-- Whether a set may begin so. -/
def SetOpening.isAllowed (m : Mode) (o : SetOpening) : Bool :=
  m.allowsComplement o.negated && (o.members == 0 || (Atom.literal '-' false).isMember m)

def SetOpening.heights (o : SetOpening) : List Nat := List.replicate o.members 0

def readMember (m : Mode) : List Char → Option (Atom × List Char)
  | [] => none
  | '\\' :: r => readEscape m r
  | c :: r => some (.literal c false, r)

/-- Reads one member or a range; the bounds of a range are characters in order. -/
def readRange (m : Mode) (cs : List Char) : Option (List Char) := do
  let (first, r) ← readMember m cs
  if !first.isMember m then none
  match m.skip r with
  | '-' :: r' =>
    if peek? m r' == some ']' || peek? m r' == some '-' then some ('-' :: r')
    else
      let (last, r) ← readMember m (m.skip r')
      match first, last with
      | .literal low _, .literal high _ => if last.isMember m && low.toNat ≤ high.toNat then some r else none
      | _, _ => none
  | r => some r

/-- Reads a set from the members on; `left` is the height of what stands left of the last operator,
`members` are the heights of the members after it. -/
def readSet (m : Mode) :
    (fuel : Nat) → (left : Option Nat) → (members : List Nat) → List Char → Option (Nat × List Char)
  | 0, _, _, _ => none
  | fuel + 1, left, members, cs =>
    let height := left.elim (heightOf members) fun l => Nat.max l (heightOf members) + 1
    match m.skip cs with
    | [] => none
    | ']' :: r => some (height, r)
    | '&' :: '&' :: r | '-' :: '-' :: r | '~' :: '~' :: r => readSet m fuel (some height) [] r
    | '[' :: r =>
      match readNamed? r with
      | some (negated, r) => if m.allowsNamed negated then readSet m fuel left (0 :: members) r else none
      | none =>
        let o := readOpening m r
        if o.isAllowed m then do
          let (h, r) ← readSet m fuel none o.heights o.rest
          readSet m fuel left ((h + 1) :: members) r
        else none
    | cs => (readRange m cs).bind fun r => readSet m fuel left (0 :: members) r

/-- Reads a set after its first bracket: its height, and what follows it. -/
def readBracket (m : Mode) (cs : List Char) : Option (Nat × List Char) :=
  let o := readOpening m cs
  if o.isAllowed m then
    (readSet m (cs.length + 1) none o.heights o.rest).map fun (h, r) => (h + 1, r)
  else none

end ModuleHost.Pattern
