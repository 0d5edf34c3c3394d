/-!
# JSON texts

Values with integers for numbers, in a compact and in a spread form. A spread
object has one entry per line, indented by two more blanks than the object.
-/
namespace ModuleHost.Text

inductive Json where
  | null
  | number (n : Int)
  | string (s : String)
  | object (entries : List (String × Json))
  deriving Repr

namespace Json

def hexDigit (n : Nat) : Char := if n < 10 then Char.ofNat (0x30 + n) else Char.ofNat (0x57 + n)

/-- How one character is written between quotes. -/
def escape (c : Char) : List Char :=
  if c = '"' then ['\\', '"']
  else if c = '\\' then ['\\', '\\']
  else if c = '\x08' then ['\\', 'b']
  else if c = '\t' then ['\\', 't']
  else if c = '\n' then ['\\', 'n']
  else if c = '\x0c' then ['\\', 'f']
  else if c = '\r' then ['\\', 'r']
  else if c.toNat < 0x20 then ['\\', 'u', '0', '0', hexDigit (c.toNat / 16), hexDigit (c.toNat % 16)]
  else [c]

def quote (s : String) : String := String.ofList ('"' :: s.toList.flatMap escape ++ ['"'])

def indent (depth : Nat) : String := String.ofList (List.replicate (2 * depth) ' ')

mutual

def compact : Json → String
  | null => "null"
  | number n => toString n
  | string s => quote s
  | object entries => "\x7b" ++ compactEntries entries ++ "\x7d"

def compactEntries : List (String × Json) → String
  | [] => ""
  | [(k, v)] => quote k ++ ":" ++ compact v
  | (k, v) :: rest => quote k ++ ":" ++ compact v ++ "," ++ compactEntries rest

end

mutual

/-- The spread form, for a value inside `depth` objects. -/
def spread (depth : Nat) : Json → String
  | null => "null"
  | number n => toString n
  | string s => quote s
  | object [] => "\x7b\x7d"
  | object entries =>
    "\x7b\n" ++ spreadEntries (depth + 1) entries ++ "\n" ++ indent depth ++ "\x7d"

def spreadEntries (depth : Nat) : List (String × Json) → String
  | [] => ""
  | [(k, v)] => indent depth ++ quote k ++ ": " ++ spread depth v
  | (k, v) :: rest =>
    indent depth ++ quote k ++ ": " ++ spread depth v ++ ",\n" ++ spreadEntries depth rest

end

end Json

end ModuleHost.Text
