import ModuleHost.Text.Unprintable

/-!
# Quoted text

`quote` writes a text between double quotes on one line. The quote and the
backslash get a backslash, four characters have a name (`\0`, `\t`, `\n`, `\r`),
every other unprintable character is written by its number, `\u{..}`, and all
others stand for themselves. `quoteList` is the bracketed list of such texts.
-/
namespace ModuleHost.Text

def hexDigits (n : Nat) : List Char := Nat.toDigits 16 n

/-- How one character is written between quotes. -/
def quoteChar (c : Char) : List Char :=
  if c = '"' then ['\\', '"']
  else if c = '\\' then ['\\', '\\']
  else if c = '\x00' then ['\\', '0']
  else if c = '\t' then ['\\', 't']
  else if c = '\n' then ['\\', 'n']
  else if c = '\r' then ['\\', 'r']
  else if isUnprintable c then '\\' :: 'u' :: '\x7b' :: hexDigits c.toNat ++ ['\x7d']
  else [c]

def quoteChars (cs : List Char) : List Char := '"' :: cs.flatMap quoteChar ++ ['"']

def quote (s : String) : String := String.ofList (quoteChars s.toList)

def quoteList (items : List String) : String :=
  "[" ++ String.intercalate ", " (items.map quote) ++ "]"

end ModuleHost.Text
