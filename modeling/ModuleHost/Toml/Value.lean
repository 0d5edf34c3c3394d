/-!
# TOML values

A document is a table. Every table remembers how it came to be, because that
decides who may add to it: a table written inline is closed, one opened by its
own header takes no dotted keys from elsewhere, one that only appeared on the way
to another header may still be opened, and one made by dotted keys takes more of
them.
-/
namespace ModuleHost.Toml

inductive Origin where
  | inline
  /-- Opened by a header of its own. -/
  | header
  /-- On the way to another header. -/
  | implied
  /-- On the way of a dotted key. -/
  | dotted
  deriving DecidableEq, Repr

/-- Numbers with a fraction, dates and times keep the text they were written with. -/
inductive Value where
  | string (s : String)
  | integer (n : Int)
  | float (text : String)
  | boolean (b : Bool)
  | datetime (text : String)
  | array (items : List Value)
  /-- An array whose elements have headers of their own. -/
  | tables (items : List Value)
  | table (origin : Origin) (entries : List (String × Value))
  deriving Repr

/-- Whether a number is an integer of 64 bits. -/
def inRange (n : Int) : Bool := Int64.minValue.toInt ≤ n && n ≤ Int64.maxValue.toInt

abbrev Entries := List (String × Value)

namespace Entries

def get? (es : Entries) (k : String) : Option Value := es.lookup k

/-- Replaces the value under a key in its place, or adds it at the end. -/
def set (k : String) (v : Value) : Entries → Entries
  | [] => [(k, v)]
  | (name, old) :: rest => if name = k then (k, v) :: rest else (name, old) :: set k v rest

end Entries

/-- The part of an array under headers that is open: its last element. -/
def changeLast (f : Value → Option Value) : List Value → Option (List Value)
  | [] => none
  | [v] => (f v).map ([·])
  | v :: rest => (changeLast f rest).map (v :: ·)

namespace Value

/-- Applies `f` to the table at a path, making the missing tables on the way. Dotted keys do
not pass through tables that have a header. -/
def at? (dotted : Bool) (f : Value → Option Value) : List String → Value → Option Value
  | [], v => f v
  | k :: rest, .table origin es =>
    match Entries.get? es k with
    | none => do
      let child ← at? dotted f rest (.table (if dotted then .dotted else .implied) [])
      return .table origin (Entries.set k child es)
    | some (.table .inline _) => none
    | some (.table .header sub) =>
      if dotted then none
      else (at? dotted f rest (.table .header sub)).map fun v => .table origin (Entries.set k v es)
    | some (.table o sub) =>
      (at? dotted f rest (.table o sub)).map fun v => .table origin (Entries.set k v es)
    | some (.tables items) =>
      (changeLast (at? dotted f rest) items).map fun vs => .table origin (Entries.set k (.tables vs) es)
    | some _ => none
  | _ :: _, _ => none

/-- Adds an entry to a table. One reached by a dotted key has to be made by dotted keys, and
any other must not be. -/
def addEntry (viaDots : Bool) (k : String) (v : Value) : Value → Option Value
  | .table origin es =>
    if (origin == .dotted) != viaDots then none
    else if (Entries.get? es k).isSome then none
    else some (.table origin (es ++ [(k, v)]))
  | _ => none

/-- Adds what a line `path = v` says to a table. -/
def assign (t : Value) (path : List String) (v : Value) : Option Value :=
  match path.getLast? with
  | none => none
  | some k => at? true (addEntry (path.length != 1) k v) path.dropLast t

/-- Opens the table that a header names. -/
def openTable (root : Value) (path : List String) : Option Value :=
  match path.getLast? with
  | none => none
  | some k => at? false (fun
      | .table origin es =>
        match Entries.get? es k with
        | none => some (.table origin (es ++ [(k, .table .header [])]))
        | some (.table .implied sub) => some (.table origin (Entries.set k (.table .header sub) es))
        | some _ => none
      | _ => none) path.dropLast root

/-- Opens one more element of the array that a double header names. -/
def openElement (root : Value) (path : List String) : Option Value :=
  match path.getLast? with
  | none => none
  | some k => at? false (fun
      | .table origin es =>
        match Entries.get? es k with
        | none => some (.table origin (es ++ [(k, .tables [.table .header []])]))
        | some (.tables items) =>
          some (.table origin (Entries.set k (.tables (items ++ [.table .header []])) es))
        | some _ => none
      | _ => none) path.dropLast root

/-- Adds what a line says to the table at the path `opened`. -/
def assignAt (root : Value) (opened path : List String) (v : Value) : Option Value :=
  at? false (fun t => t.assign path v) opened root

end Value

end ModuleHost.Toml
