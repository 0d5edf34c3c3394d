import ModuleHost.Text.Digits
import ModuleHost.Toml.Value

/-!
# TOML strings, numbers and dates

Readers take the characters that are left and give a value with what is left
after it. A reader that finds no value of its kind gives none.
-/
namespace ModuleHost.Toml

open Text

abbrev Reader (α : Type) := List Char → Option (α × List Char)

def isWs (c : Char) : Bool := c == ' ' || c == '\t'

def skipWs (cs : List Char) : List Char := cs.dropWhile isWs

/-- A character that may stand in a comment: anything but controls, the tab excepted. -/
def isPlain (c : Char) : Bool := c == '\t' || (0x20 ≤ c.toNat && c.toNat != 0x7F)

/-- The character with the number that hexadecimal digits give; surrogates are none. -/
def scalar? (digits : List Char) : Option Char := do
  let n ← digits.foldlM (fun n c => (hexValue? c).map (n * 16 + ·)) 0
  if n.isValidChar then some (Char.ofNat n) else none

/-- What follows a backslash. -/
def escape : Reader Char
  | 'b' :: r => some ('\x08', r)
  | 't' :: r => some ('\t', r)
  | 'n' :: r => some ('\n', r)
  | 'f' :: r => some ('\x0c', r)
  | 'r' :: r => some ('\r', r)
  | '"' :: r => some ('"', r)
  | '\\' :: r => some ('\\', r)
  | 'u' :: a :: b :: c :: d :: r => (scalar? [a, b, c, d]).map (·, r)
  | 'U' :: a :: b :: c :: d :: e :: f :: g :: h :: r =>
    (scalar? [a, b, c, d, e, f, g, h]).map (·, r)
  | _ => none

/-- How many characters an escape takes after its backslash. -/
def escapeLength : List Char → Nat
  | 'u' :: _ => 5
  | 'U' :: _ => 9
  | _ => 1

/-- The inside of `"..."`, up to and with the closing quote. `skip` characters belong to an
escape that has been read. -/
def basicBody (skip : Nat) : Reader (List Char)
  | [] => none
  | c :: r =>
    match skip with
    | n + 1 => basicBody n r
    | 0 =>
      if c = '"' then some ([], r)
      else if c = '\\' then do
        let (e, _) ← escape r
        let (s, rest) ← basicBody (escapeLength r) r
        return (e :: s, rest)
      else if isPlain c then (basicBody 0 r).map fun (s, rest) => (c :: s, rest)
      else none

/-- The inside of `'...'`. -/
def literalBody : Reader (List Char)
  | [] => none
  | c :: r =>
    if c = '\'' then some ([], r)
    else if isPlain c then (literalBody r).map fun (s, rest) => (c :: s, rest)
    else none

/-- The end of a text in triple quotes, if it is here: up to two quotes before the closing
three belong to the text. -/
def closing? (q : Char) : List Char → Option (List Char × List Char)
  | a :: b :: c :: r =>
    if a = q ∧ b = q ∧ c = q then
      match r with
      | d :: e :: r' => if d = q ∧ e = q then some ([q, q], r')
        else if d = q then some ([q], e :: r') else some ([], r)
      | [d] => if d = q then some ([q], []) else some ([], r)
      | [] => some ([], [])
    else none
  | _ => none

/-- Where a reader of `"""..."""` stands. -/
inductive LongMode where
  | plain
  /-- Inside an escape, or the second half of a line end. -/
  | skip (n : Nat)
  /-- After a backslash and blanks: the line has to end here. -/
  | folding
  /-- After a folded line end: blanks and line ends are dropped. -/
  | folded
  deriving DecidableEq, Repr

/-- The inside of `"""..."""`. Line ends read as a line feed. -/
def longBasicBody (m : LongMode) : Reader (List Char)
  | [] => none
  | c :: r =>
    match m with
    | .skip (n + 2) => longBasicBody (.skip (n + 1)) r
    | .skip _ => longBasicBody .plain r
    | .folding =>
      if isWs c then longBasicBody .folding r
      else if c = '\n' ∨ (c = '\r' ∧ r.head? = some '\n') then longBasicBody .folded r
      else none
    | m =>
      if m = .folded ∧ (isWs c ∨ c = '\n' ∨ (c = '\r' ∧ r.head? = some '\n')) then
        longBasicBody .folded r
      else match closing? '"' (c :: r) with
        | some out => some out
        | none =>
          if c = '\\' then
            match r with
            | [] => none
            | d :: _ =>
              if isWs d ∨ d = '\n' ∨ d = '\r' then longBasicBody .folding r
              else do
                let (e, _) ← escape r
                let (s, rest) ← longBasicBody (.skip (escapeLength r)) r
                return (e :: s, rest)
          else if c = '\n' then (longBasicBody .plain r).map fun (s, rest) => ('\n' :: s, rest)
          else if c = '\r' then
            if r.head? = some '\n' then longBasicBody .plain r else none
          else if isPlain c then (longBasicBody .plain r).map fun (s, rest) => (c :: s, rest)
          else none

/-- The inside of `'''...'''`. Line ends read as a line feed. -/
def longLiteralBody : Reader (List Char)
  | [] => none
  | c :: r =>
    match closing? '\'' (c :: r) with
    | some out => some out
    | none =>
      if c = '\n' then (longLiteralBody r).map fun (s, rest) => ('\n' :: s, rest)
      else if c = '\r' then
        if r.head? = some '\n' then longLiteralBody r else none
      else if isPlain c then (longLiteralBody r).map fun (s, rest) => (c :: s, rest)
      else none

/-- A line end right after the opening quotes does not belong to the text. -/
def dropFirstLineEnd : List Char → List Char
  | '\n' :: r => r
  | '\r' :: '\n' :: r => r
  | cs => cs

def text : Reader (List Char)
  | '"' :: '"' :: '"' :: r => longBasicBody .plain (dropFirstLineEnd r)
  | '"' :: r => basicBody 0 r
  | '\'' :: '\'' :: '\'' :: r => longLiteralBody (dropFirstLineEnd r)
  | '\'' :: r => literalBody r
  | _ => none

/-! ## Numbers -/

/-- A run of digits, with single underscores between digits. -/
def digitRun (isDigit : Char → Bool) : List Char → List Char × List Char
  | '_' :: c :: r =>
    if isDigit c then
      let (ds, rest) := digitRun isDigit r
      (c :: ds, rest)
    else ([], '_' :: c :: r)
  | c :: r =>
    if isDigit c then
      let (ds, rest) := digitRun isDigit r
      (c :: ds, rest)
    else ([], c :: r)
  | [] => ([], [])

/-- One digit or more. -/
def digits? (isDigit : Char → Bool) : Reader (List Char)
  | c :: r =>
    if isDigit c then
      let (ds, rest) := digitRun isDigit r
      some (c :: ds, rest)
    else none
  | [] => none

/-- Decimal digits without a leading zero. -/
def decimalDigits : Reader (List Char)
  | '0' :: r => some (['0'], r)
  | cs => digits? Char.isDigit cs

/-- A sign, which may be missing: whether it is a minus, and the rest. -/
def sign : List Char → Bool × List Char
  | '-' :: r => (true, r)
  | '+' :: r => (false, r)
  | cs => (false, cs)

def signed (negative : Bool) (n : Nat) : Int := if negative then -n else n

def integer (cs : List Char) : Option (Int × List Char) := do
  let (n, rest) ← match cs with
    | '0' :: 'x' :: r => (digits? (fun c => (hexValue? c).isSome) r).map fun (ds, rest) =>
        ((natOfDigits 16 ds : Int), rest)
    | '0' :: 'o' :: r => (digits? (fun c => '0' ≤ c && c ≤ '7') r).map fun (ds, rest) =>
        ((natOfDigits 8 ds : Int), rest)
    | '0' :: 'b' :: r => (digits? (fun c => c == '0' || c == '1') r).map fun (ds, rest) =>
        ((natOfDigits 2 ds : Int), rest)
    | _ =>
      let (negative, r) := sign cs
      (decimalDigits r).map fun (ds, rest) => (signed negative (natOfDigits 10 ds), rest)
  if inRange n then some (n, rest) else none

/-- Whether `digits · 10 ^ exponent` is too large for a binary number of 64 bits: it rounds to
infinity from halfway between the largest finite one and the next power of two. -/
def overflows (digits : Nat) (exponent : Int) : Bool :=
  if digits = 0 then false
  else
    let least := Nat.pow 2 1024 - Nat.pow 2 970
    let magnitude : Int := (Nat.toDigits 10 digits).length + exponent
    if magnitude > 310 then true
    else if magnitude < 300 then false
    else if 0 ≤ exponent then decide (least ≤ digits * Nat.pow 10 exponent.toNat)
    else decide (least * Nat.pow 10 (-exponent).toNat ≤ digits)

/-- The exponent after an `e`. -/
def exponent : Reader Int
  | c :: r =>
    if c = 'e' ∨ c = 'E' then
      let (negative, r) := sign r
      (digits? Char.isDigit r).map fun (ds, rest) => (signed negative (natOfDigits 10 ds), rest)
    else none
  | [] => none

/-- A number with a fraction or an exponent, or one of the special ones. A positive number
past the largest finite one is refused. -/
def float (cs : List Char) : Option (List Char) :=
  let (negative, r) := sign cs
  match r with
  | 'i' :: 'n' :: 'f' :: rest => some rest
  | 'n' :: 'a' :: 'n' :: rest => some rest
  | _ => do
    let (whole, r) ← decimalDigits r
    let (fraction, exp, rest) ← match r with
      | '.' :: r => do
        let (ds, r) ← digits? Char.isDigit r
        match exponent r with
        | some (e, rest) => some (ds, e, rest)
        | none => some (ds, 0, r)
      | _ => (exponent r).map fun (e, rest) => ([], e, rest)
    if !negative && overflows (natOfDigits 10 (whole ++ fraction)) (exp - fraction.length) then none
    else some rest

/-! ## Dates and times -/

/-- Two digits within a range. -/
def twoDigits (low high : Nat) : Reader Nat
  | a :: b :: r =>
    if a.isDigit && b.isDigit then
      let n := natOfDigits 10 [a, b]
      if low ≤ n ∧ n ≤ high then some (n, r) else none
    else none
  | _ => none

def char (c : Char) : List Char → Option (List Char)
  | d :: r => if c = d then some r else none
  | [] => none

def daysInMonth (year month : Nat) : Nat :=
  if month = 2 then
    if year % 4 = 0 ∧ (year % 100 ≠ 0 ∨ year % 400 = 0) then 29 else 28
  else if month = 4 ∨ month = 6 ∨ month = 9 ∨ month = 11 then 30
  else 31

def date : List Char → Option (List Char)
  | a :: b :: c :: d :: '-' :: r => do
    if !([a, b, c, d].all Char.isDigit) then none
    let (month, r) ← twoDigits 1 12 r
    let r ← char '-' r
    let (day, r) ← twoDigits 1 31 r
    if day ≤ daysInMonth (natOfDigits 10 [a, b, c, d]) month then some r else none
  | _ => none

def time (cs : List Char) : Option (List Char) := do
  let (_, r) ← twoDigits 0 23 cs
  let r ← char ':' r
  let (_, r) ← twoDigits 0 59 r
  let r ← char ':' r
  let (_, r) ← twoDigits 0 60 r
  match r with
  | '.' :: f :: r => if f.isDigit then some (r.dropWhile Char.isDigit) else none
  | '.' :: [] => none
  | _ => some r

/-- The distance from Greenwich after a time, which may be missing. -/
def offset : List Char → Option (List Char)
  | [] => some []
  | c :: r =>
    if c = 'Z' ∨ c = 'z' then some r
    else if c = '+' ∨ c = '-' then do
      let (_, r) ← twoDigits 0 23 r
      let r ← char ':' r
      let (_, r) ← twoDigits 0 59 r
      return r
    else some (c :: r)

/-- Whether a date starts here: from then on nothing else is tried. -/
def startsDate : List Char → Bool
  | a :: b :: c :: d :: '-' :: _ => [a, b, c, d].all Char.isDigit
  | _ => false

/-- Whether a time starts here. -/
def startsTime (cs : List Char) : Bool := ((twoDigits 0 23 cs).bind fun (_, r) => char ':' r).isSome

/-- A date, a time, or both with or without an offset. -/
def datetime (cs : List Char) : Option (List Char) :=
  if startsDate cs then do
    let r ← date cs
    match r with
    | c :: rest =>
      if (c = 'T' ∨ c = 't' ∨ c = ' ') ∧ startsTime rest then (time rest).bind offset else some r
    | [] => some []
  else time cs

/-- A number, a date or a time: what may start with a sign or a digit. -/
def numeric (cs : List Char) : Option (Value × List Char) :=
  let upTo (rest : List Char) : String := String.ofList (cs.take (cs.length - rest.length))
  if startsDate cs || startsTime cs then
    (datetime cs).map fun rest => (.datetime (upTo rest), rest)
  else match float cs with
    | some rest => some (.float (upTo rest), rest)
    | none => (integer cs).map fun (n, rest) => (.integer n, rest)

end ModuleHost.Toml
