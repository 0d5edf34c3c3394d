import ModuleHost.Toml.Scalar

/-!
# Reading TOML

`Toml.read?` reads a whole document, TOML 1.0: lines that are blank, assign a key
or open a table. Arrays and inline tables nest up to `depthLimit - 1` deep, and a
dotted key has fewer than `depthLimit` parts. A byte order mark at the start is
skipped.
-/
namespace ModuleHost.Toml

def depthLimit : Nat := 80

/-- Skips blanks, line ends and comments; a comment has to end with its line. -/
def skipLines (inComment : Bool) : List Char → Option (List Char)
  | [] => if inComment then none else some []
  | '\r' :: '\n' :: r => skipLines false r
  | c :: r =>
    if c = '\n' then skipLines false r
    else if inComment then if isPlain c then skipLines true r else none
    else if isWs c then skipLines false r
    else if c = '#' then skipLines true r
    else some (c :: r)

def skipComment : List Char → List Char
  | '#' :: r => r.dropWhile isPlain
  | cs => cs

/-- The end of a line: blanks, a comment, and a line end or the end of the text. -/
def endLine (cs : List Char) : Option (List Char) :=
  match skipComment (skipWs cs) with
  | [] => some []
  | '\n' :: r => some r
  | '\r' :: '\n' :: r => some r
  | _ => none

/-! ## Keys -/

def isBareKeyChar (c : Char) : Bool := c.isAlphanum || c == '-' || c == '_'

def simpleKey : Reader String
  | '"' :: r => (basicBody 0 r).map fun (s, rest) => (String.ofList s, rest)
  | '\'' :: r => (literalBody r).map fun (s, rest) => (String.ofList s, rest)
  | cs =>
    match cs.takeWhile isBareKeyChar with
    | [] => none
    | s => some (String.ofList s, cs.dropWhile isBareKeyChar)

/-- Keys joined by dots, with blanks around each. -/
def dottedKey : (fuel : Nat) → Reader (List String)
  | 0, _ => none
  | fuel + 1, cs => do
    let (k, r) ← simpleKey (skipWs cs)
    match skipWs r with
    | '.' :: r => (dottedKey fuel r).map fun (ks, rest) => (k :: ks, rest)
    | rest => some ([k], rest)

def key (cs : List Char) : Option (List String × List Char) := dottedKey (depthLimit - 1) cs

/-! ## Values -/

def emptyInline : Value := .table .inline []

/-- Elements separated by commas, up to the closing bracket; a last comma may follow them. -/
def elements (value : Reader Value) : (fuel : Nat) → Reader (List Value)
  | 0, _ => none
  | fuel + 1, cs => do
    let cs ← skipLines false cs
    match cs with
    | ']' :: rest => some ([], rest)
    | _ => do
      let (v, r) ← value cs
      let r ← skipLines false r
      match r with
      | ']' :: rest => some ([v], rest)
      | ',' :: r => (elements value fuel r).map fun (vs, rest) => (v :: vs, rest)
      | _ => none

/-- One `key = value`, with blanks around. -/
def pair (value : Reader Value) (cs : List Char) : Option ((List String × Value) × List Char) := do
  let (k, r) ← key cs
  let r ← char '=' r
  let (v, r) ← value (skipWs r)
  return ((k, v), skipWs r)

/-- Pairs separated by commas, up to the closing brace. -/
def pairs (value : Reader Value) : (fuel : Nat) → Value → Reader Value
  | 0, _, _ => none
  | fuel + 1, t, cs => do
    let ((k, v), r) ← pair value cs
    let t ← t.assign k v
    match r with
    | '\x7d' :: rest => some (t, rest)
    | ',' :: r => pairs value fuel t r
    | _ => none

def inlineTable (value : Reader Value) (cs : List Char) : Option (Value × List Char) :=
  match skipWs cs with
  | '\x7d' :: rest => some (emptyInline, rest)
  | cs => pairs value cs.length emptyInline cs

def word (w : List Char) (v : Value) (cs : List Char) : Option (Value × List Char) :=
  if w.isPrefixOf cs then some (v, cs.drop w.length) else none

/-- A value; `depth` more levels of nesting are allowed. -/
def value (depth : Nat) (cs : List Char) : Option (Value × List Char) :=
  match cs with
  | [] => none
  | c :: r =>
    if c = '[' then
      match depth with
      | 0 => none
      | d + 1 => (elements (value d) (r.length + 1) r).map fun (vs, rest) => (.array vs, rest)
    else if c = '\x7b' then
      match depth with
      | 0 => none
      | d + 1 => inlineTable (value d) r
    else if c = '"' || c = '\'' then
      (text cs).map fun (s, rest) => (.string (String.ofList s), rest)
    else if c = 't' then word "true".toList (.boolean true) cs
    else if c = 'f' then word "false".toList (.boolean false) cs
    else if c.isDigit || c = '+' || c = '-' || c = 'i' || c = 'n' then numeric cs
    else none

/-! ## Documents -/

/-- What has been read: the document, and the path of the table that is open. -/
structure Draft where
  root : Value := .table .header []
  opened : List String := []

/-- Reads one line that is not blank. -/
def line (d : Draft) (cs : List Char) : Option (Draft × List Char) :=
  match cs with
  | '[' :: '[' :: r => do
    let (k, r) ← key r
    let r ← char ']' r
    let r ← char ']' r
    let rest ← endLine r
    let root ← d.root.openElement k
    return ({ root, opened := k }, rest)
  | '[' :: r => do
    let (k, r) ← key r
    let r ← char ']' r
    let rest ← endLine r
    let root ← d.root.openTable k
    return ({ root, opened := k }, rest)
  | _ => do
    let ((k, v), r) ← pair (value (depthLimit - 1)) cs
    let rest ← endLine r
    let root ← d.root.assignAt d.opened k v
    return ({ d with root }, rest)

/-- Reads all lines; each takes at least one character, so `fuel` is their number. -/
def lines : (fuel : Nat) → Draft → List Char → Option Draft
  | 0, d, cs => if cs.isEmpty then some d else none
  | fuel + 1, d, cs =>
    match skipWs cs with
    | [] => some d
    | '\n' :: r => lines fuel d r
    | '\r' :: '\n' :: r => lines fuel d r
    | '#' :: r => (endLine ('#' :: r)).bind fun rest => lines fuel d rest
    | cs => (line d cs).bind fun (d, rest) => lines fuel d rest

def readChars (cs : List Char) : Option Value :=
  let cs := match cs with
    | '\uFEFF' :: r => r
    | cs => cs
  (lines cs.length {} cs).map Draft.root

/-- The document that a text holds, none if it is not TOML. -/
def read? (s : String) : Option Value := readChars s.toList

end ModuleHost.Toml
