/-!
# UTF-8

Bytes are read one at a time. Between characters the reader is at `Pending.start`;
inside one it owes a number of further bytes, the next of which has to lie in a
range (the first range after a lead byte rules out overlong forms, surrogates
and values past U+10FFFF).

`units` gives one entry per character and one `none` per longest prefix of a
character that the bytes break off; a byte that breaks a character off starts
the next unit. Strict reading (`decode?`) accepts a text without a `none`,
lenient reading (`decodeLossy`) puts U+FFFD for each.

`slice?` cuts a text at places that are counted in its bytes.
-/
namespace ModuleHost.Text

abbrev Bytes := List UInt8

/-- The UTF-8 bytes of a text. -/
def encode (s : String) : Bytes := s.toList.flatMap String.utf8EncodeChar

namespace Utf8

/-- Where the reader stands: between characters, or owing `count` more bytes of a
character whose bits so far are `bits`, the next byte within `low` to `high`. -/
inductive Pending where
  | start
  | owed (count : Nat) (low high : UInt8) (bits : Nat)
  deriving DecidableEq, Repr

/-- What a lead byte of two or more bytes promises; none for a byte that leads nothing. -/
def lead? (b : UInt8) : Option Pending :=
  if 0xC2 ≤ b ∧ b ≤ 0xDF then some (.owed 1 0x80 0xBF (b.toNat % 0x20))
  else if b = 0xE0 then some (.owed 2 0xA0 0xBF 0)
  else if b = 0xED then some (.owed 2 0x80 0x9F 0xD)
  else if 0xE1 ≤ b ∧ b ≤ 0xEF then some (.owed 2 0x80 0xBF (b.toNat % 0x10))
  else if b = 0xF0 then some (.owed 3 0x90 0xBF 0)
  else if 0xF1 ≤ b ∧ b ≤ 0xF3 then some (.owed 3 0x80 0xBF (b.toNat % 0x8))
  else if b = 0xF4 then some (.owed 3 0x80 0x8F 4)
  else none

/-- A byte read between characters: the unit it completes, if any, and the state after it. -/
def first (b : UInt8) : List (Option Char) × Pending :=
  if b < 0x80 then ([some (Char.ofNat b.toNat)], .start)
  else match lead? b with
    | some p => ([], p)
    | none => ([none], .start)

/-- One byte: the units it completes and the state after it. -/
def step : Pending → UInt8 → List (Option Char) × Pending
  | .start, b => first b
  | .owed count low high bits, b =>
    if low ≤ b ∧ b ≤ high then
      let bits := bits * 0x40 + b.toNat % 0x40
      if count ≤ 1 then ([some (Char.ofNat bits)], .start)
      else ([], .owed (count - 1) 0x80 0xBF bits)
    else
      let (units, next) := first b
      (none :: units, next)

/-- The units of the bytes that follow a state; a character left open is one broken unit. -/
def unitsFrom : Pending → Bytes → List (Option Char)
  | .start, [] => []
  | .owed .., [] => [none]
  | p, b :: rest => (step p b).1 ++ unitsFrom (step p b).2 rest

def units (bytes : Bytes) : List (Option Char) := unitsFrom .start bytes

end Utf8

/-- The text of well-formed UTF-8, none for any other bytes. -/
def decode? (bytes : Bytes) : Option String :=
  let units := Utf8.units bytes
  if units.all Option.isSome then some (String.ofList (units.filterMap id)) else none

/-- The text of any bytes, with U+FFFD for each broken unit. -/
def decodeLossy (bytes : Bytes) : String :=
  String.ofList ((Utf8.units bytes).map (·.getD '\uFFFD'))

/-! ## Places counted in bytes -/

/-- What is left of a text after so many bytes; none if they end inside a character or past the
text. -/
def dropBytes? : Nat → List Char → Option (List Char)
  | 0, cs => some cs
  | _ + 1, [] => none
  | n + 1, c :: r => if c.utf8Size ≤ n + 1 then dropBytes? (n + 1 - c.utf8Size) r else none

/-- So many bytes of a text. -/
def takeBytes? : Nat → List Char → Option (List Char)
  | 0, _ => some []
  | _ + 1, [] => none
  | n + 1, c :: r =>
    if c.utf8Size ≤ n + 1 then (takeBytes? (n + 1 - c.utf8Size) r).map (c :: ·) else none

/-- The text from one place to another. -/
def slice? (s : String) (start stop : Nat) : Option String :=
  ((dropBytes? start s.toList).bind (takeBytes? (stop - start))).map String.ofList

end ModuleHost.Text
