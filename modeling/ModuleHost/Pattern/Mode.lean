import ModuleHost.Text.Blank

/-!
# Modes of a search pattern

A pattern is read in a mode, which flags in the pattern change. Three of the seven
flags bear on which texts are patterns: letters may match in either case, the text
is one of characters or of bytes, and blanks and comments may stand anywhere. The
other four say what a match is.
-/
namespace ModuleHost.Pattern

open Text

inductive Flag where
  | caseless | multiLine | dotAll | lazyFirst | unicode | carriageReturn | spaced
  deriving DecidableEq, Repr

def Flag.ofChar? : Char → Option Flag
  | 'i' => some .caseless
  | 'm' => some .multiLine
  | 's' => some .dotAll
  | 'U' => some .lazyFirst
  | 'u' => some .unicode
  | 'R' => some .carriageReturn
  | 'x' => some .spaced
  | _ => none

structure Mode where
  caseless : Bool := false
  /-- Whether a pattern speaks of characters, and not of bytes. -/
  unicode : Bool := true
  spaced : Bool := false
  deriving DecidableEq, Repr

namespace Mode

def set (m : Mode) (f : Flag) (on : Bool) : Mode :=
  match f with
  | .caseless => { m with caseless := on }
  | .unicode => { m with unicode := on }
  | .spaced => { m with spaced := on }
  | _ => m

/-- The text after blanks and comments; a comment ends with its line. -/
def skipSpaces : (comment : Bool) → List Char → List Char
  | _, [] => []
  | true, c :: r => skipSpaces (c != '\n') r
  | false, c :: r =>
    if isBlank c then skipSpaces false r else if c = '#' then skipSpaces true r else c :: r

/-- The text after what the mode lets stand anywhere. -/
def skip (m : Mode) (cs : List Char) : List Char := if m.spaced then skipSpaces false cs else cs

end Mode

/-- How flags end. -/
structure FlagsEnd where
  mode : Mode
  /-- Whether a colon follows, and so the group that they are for. -/
  colon : Bool
  rest : List Char

/-- Reads flags up to a colon or a closing parenthesis; `seen` are those read so far. A dash
switches the flags after it off. It stands once, and a flag follows it; no flag stands twice. -/
def readFlags (m : Mode) (seen : List Flag) (negated dangling : Bool) : List Char → Option FlagsEnd
  | [] => none
  | ':' :: r => if dangling then none else some ⟨m, true, r⟩
  | ')' :: r => if dangling || seen.isEmpty then none else some ⟨m, false, r⟩
  | '-' :: r => if negated then none else readFlags m seen true true r
  | c :: r =>
    match Flag.ofChar? c with
    | none => none
    | some f => if seen.contains f then none else readFlags (m.set f !negated) (f :: seen) negated false r

end ModuleHost.Pattern
