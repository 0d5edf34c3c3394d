import ModuleHost.Toml.Value

/-!
# Writing TOML

A `Document` is a list of sections, each a table of settings under its own header.
`Document.render` writes it: sections separated by an empty line, one setting per
line, lists of two texts or more with one element per line.

A text is written in the plainest form that holds it (`TextForm.of`): a form
without escapes wherever there is one, else with escapes, on several lines only if
the text has several.
-/
namespace ModuleHost.Toml

inductive Setting where
  | text (s : String)
  | number (n : Int)
  | flag (b : Bool)
  | texts (items : List String)
  deriving DecidableEq, Repr

/-- Names and keys are bare keys: letters, digits, dashes and underscores. -/
structure Section where
  name : String
  settings : List (String × Setting)
  deriving DecidableEq, Repr

abbrev Document := List Section

/-! ## What a document holds -/

def Setting.toValue : Setting → Value
  | .text s => .string s
  | .number n => .integer n
  | .flag b => .boolean b
  | .texts items => .array (items.map .string)

def Section.toValue (s : Section) : Value :=
  .table .header (s.settings.map fun (k, v) => (k, v.toValue))

def Document.toValue (d : Document) : Value :=
  .table .header (d.map fun s => (s.name, s.toValue))

/-! ## Texts -/

/-- A control character that only an escape can write: any but the tab and the line feed. -/
def isCode (c : Char) : Bool := (c.toNat < 0x20 && c != '\t' && c != '\n') || c.toNat == 0x7F

/-- The length of the longest run of `q`; `run` is the length of the run that is open. -/
def longestRun (q : Char) (run : Nat) : List Char → Nat
  | [] => run
  | c :: r => if c = q then longestRun q (run + 1) r else max run (longestRun q 0 r)

inductive TextForm where
  /-- `"..."` -/
  | basic
  /-- `'...'` -/
  | literal
  /-- `"""..."""` -/
  | longBasic
  /-- `'''...'''` -/
  | longLiteral
  deriving DecidableEq, Repr

namespace TextForm

/-- The form of a text. -/
def of (s : List Char) : TextForm :=
  let codes := s.any isCode
  let escape := s.contains '\\'
  let line := s.contains '\n'
  if !codes && !escape && !s.contains '"' && !line then .basic
  else if !codes && !s.contains '\'' && !line then .literal
  else if !codes && !escape && longestRun '"' 0 s ≤ 2 then .longBasic
  else if !codes && longestRun '\'' 0 s ≤ 2 then .longLiteral
  else if line then .longBasic
  else .basic

def quotes : TextForm → List Char
  | .basic => ['"']
  | .literal => ['\'']
  | .longBasic => ['"', '"', '"']
  | .longLiteral => ['\'', '\'', '\'']

/-- How many quotes in a row need no escape, in the forms that have escapes. -/
def freeQuotes : TextForm → Nat
  | .longBasic => 2
  | _ => 0

end TextForm

def upperHexDigit (n : Nat) : Char :=
  if n < 10 then Char.ofNat (0x30 + n) else Char.ofNat (0x37 + n)

/-- A code by its number, in four hexadecimal digits. -/
def numbered (c : Char) : List Char :=
  ['\\', 'u', '0', '0', upperHexDigit (c.toNat / 16 % 16), upperHexDigit (c.toNat % 16)]

/-- A character other than the quote between basic quotes. -/
def escapeChar (form : TextForm) (c : Char) : List Char :=
  if c = '\\' then ['\\', '\\']
  else if c = '\n' then if form = .longBasic then ['\n'] else ['\\', 'n']
  else if c = '\x08' then ['\\', 'b']
  else if c = '\t' then ['\\', 't']
  else if c = '\x0c' then ['\\', 'f']
  else if c = '\r' then ['\\', 'r']
  else if isCode c then numbered c
  else [c]

/-- The inside of a form with escapes. `run` quotes have been written just before. -/
def escaped (form : TextForm) (run : Nat) : List Char → List Char
  | [] => []
  | c :: r =>
    if c = '"' then
      if run < form.freeQuotes then '"' :: escaped form (run + 1) r
      else '\\' :: '"' :: escaped form 0 r
    else escapeChar form c ++ escaped form 0 r

def textBody (form : TextForm) (s : List Char) : List Char :=
  match form with
  | .literal | .longLiteral => s
  | form => escaped form 0 s

/-- A text with a line end starts on a line of its own. -/
def renderText (s : String) : String :=
  let cs := s.toList
  let form := TextForm.of cs
  String.ofList (form.quotes ++ (if cs.contains '\n' then ['\n'] else []) ++ textBody form cs
    ++ form.quotes)

/-! ## Documents -/

namespace Setting

def render : Setting → String
  | .text s => renderText s
  | .number n => toString n
  | .flag b => if b then "true" else "false"
  | .texts [] => "[]"
  | .texts [s] => "[" ++ renderText s ++ "]"
  | .texts items => "[\n" ++ String.join (items.map fun s => "    " ++ renderText s ++ ",\n") ++ "]"

/-- Whether TOML has the value: its integers have 64 bits. -/
def isWritable : Setting → Bool
  | .number n => inRange n
  | _ => true

end Setting

def Section.render (s : Section) : String :=
  "[" ++ s.name ++ "]\n" ++ String.join (s.settings.map fun (k, v) => k ++ " = " ++ v.render ++ "\n")

namespace Document

def isWritable (d : Document) : Bool := d.all fun s => s.settings.all fun e => e.2.isWritable

def render (d : Document) : String := String.intercalate "\n" (d.map Section.render)

/-- The text of a document, none if it has a value that TOML has not. -/
def render? (d : Document) : Option String := if d.isWritable then some d.render else none

end Document

end ModuleHost.Toml
