import ModuleHost.Pattern.Mode
import ModuleHost.Text.Digits

/-!
# Atoms of a search pattern

An atom is a single character or an escape. `Atom.isAllowed` says where a mode
lets it stand by itself, `Atom.isMember` where it may be a member of a set. There
are no tables of Unicode properties or of case: a class of characters, and a letter
without regard to its case, can only be asked for among bytes. A pattern of bytes
has to match whole characters all the same, so it cannot name a byte past 0x7F.
-/
namespace ModuleHost.Pattern

open Text

inductive Atom where
  /-- A character; `byte` says that it is written by the two digits of a byte. -/
  | literal (c : Char) (byte : Bool)
  /-- A digit, blank or word character, or none such. -/
  | shorthand (negated : Bool)
  /-- The beginning or the end of the text. -/
  | anchor
  /-- An edge of a word, or no such place. -/
  | wordEdge
  | anything
  deriving DecidableEq, Repr

def isAscii (c : Char) : Bool := c.toNat < 0x80

namespace Atom

def isAllowed (m : Mode) : Atom → Bool
  | .literal c byte => if m.unicode then !m.caseless else isAscii c || !byte
  | .shorthand negated => !m.unicode && !negated
  | .anchor => true
  | .wordEdge => !m.unicode
  | .anything => m.unicode

def isMember (m : Mode) : Atom → Bool
  | .literal c _ => if m.unicode then !m.caseless else isAscii c
  | .shorthand negated => !m.unicode && !negated
  | _ => false

end Atom

/-- Reads a number of so many digits, and what stands for nothing around them. -/
def readHex (m : Mode) : (digits : Nat) → (value : Nat) → List Char → Option (Nat × List Char)
  | 0, value, cs => some (value, m.skip cs)
  | n + 1, value, cs =>
    match m.skip cs with
    | [] => none
    | c :: r => (hexValue? c).bind fun d => readHex m n (value * 16 + d) r

/-- Reads a character by its number. -/
def readNumbered (m : Mode) (digits : Nat) (cs : List Char) : Option (Atom × List Char) := do
  let (value, r) ← readHex m digits 0 cs
  if value.isValidChar then some (.literal (Char.ofNat value) (digits == 2), r) else none

/-- What a letter means after a backslash. -/
def letterAtom? : Char → Option Atom
  | 'a' => some (.literal '\x07' false)
  | 'f' => some (.literal '\x0c' false)
  | 't' => some (.literal '\t' false)
  | 'n' => some (.literal '\n' false)
  | 'r' => some (.literal '\r' false)
  | 'v' => some (.literal '\x0b' false)
  | 'd' | 's' | 'w' => some (.shorthand false)
  | 'D' | 'S' | 'W' => some (.shorthand true)
  | 'A' | 'z' => some .anchor
  | 'b' | 'B' | '<' | '>' => some .wordEdge
  | _ => none

/-- Reads what follows a backslash. A character of ASCII that is no letter, digit or angle bracket
stands for itself. -/
def readEscape (m : Mode) : List Char → Option (Atom × List Char)
  | [] => none
  | 'x' :: r => readNumbered m 2 r
  | 'u' :: r => readNumbered m 4 r
  | 'U' :: r => readNumbered m 8 r
  | c :: r =>
    match letterAtom? c with
    | some a => some (a, r)
    | none => if isAscii c && !c.isAlphanum then some (.literal c false, r) else none

end ModuleHost.Pattern
