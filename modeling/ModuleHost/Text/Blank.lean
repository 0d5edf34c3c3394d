/-!
# Blank characters and trimming

`isBlank` is the Unicode property White_Space. `trim` removes blanks at both
ends of a text and `lowerAscii` lowers the letters A to Z and nothing else;
together they make the key of a header name.
-/
namespace ModuleHost.Text

/-- The Unicode property White_Space. -/
def isBlank (c : Char) : Bool :=
  let n := c.toNat
  (0x9 ≤ n && n ≤ 0xD) || n == 0x20 || n == 0x85 || n == 0xA0 || n == 0x1680
    || (0x2000 ≤ n && n ≤ 0x200A) || n == 0x2028 || n == 0x2029 || n == 0x202F
    || n == 0x205F || n == 0x3000

def trimChars (cs : List Char) : List Char :=
  ((cs.dropWhile isBlank).reverse.dropWhile isBlank).reverse

/-- A text without the blanks at its ends. -/
def trim (s : String) : String := String.ofList (trimChars s.toList)

/-- Lowers A to Z; every other character stays as it is. -/
def lowerAscii (s : String) : String := String.ofList (s.toList.map Char.toLower)

end ModuleHost.Text
