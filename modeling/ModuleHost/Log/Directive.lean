import ModuleHost.Log.Notice
import ModuleHost.Pattern.Basic
import ModuleHost.Text.Blank
import ModuleHost.Text.Digits
import ModuleHost.Text.Letters
import ModuleHost.Text.Utf8

/-!
# Directives of a log filter

A directive has a threshold, and may say whom it concerns: the targets that begin
with a text, what happens in spans of a name, what has a field. Its parts are written
in this order, `target[span{field=value}]=threshold`, and each may be missing; a word
alone is a threshold if it names one, else a target, which lets everything through.

A directive is read as a walk over its characters (`Draft.step`). The walk goes over
the text without the blanks at its ends and counts places in bytes; the parts are
then cut at these places out of the text as it was given.
-/
namespace ModuleHost.Log

open Text

/-- The most talkative level that passes, none where nothing does. -/
abbrev Threshold := Option Level

def Threshold.allows (t : Threshold) (l : Level) : Bool := t.any fun m => decide (l.rank ≤ m.rank)

def thresholdOfNumber? : Nat → Option Threshold
  | 0 => some none
  | 1 => some (some .error)
  | 2 => some (some .warn)
  | 3 => some (some .info)
  | 4 => some (some .debug)
  | 5 => some (some .trace)
  | _ => none

def thresholdOfName? (name : String) : Option Threshold :=
  match name with
  | "off" => some none
  | "error" | "" => some (some .error)
  | "warn" => some (some .warn)
  | "info" => some (some .info)
  | "debug" => some (some .debug)
  | "trace" => some (some .trace)
  | _ => none

/-- The digits of a number, after a plus sign that may be missing. -/
def number? (cs : List Char) : Option Nat :=
  let ds := match cs with
    | '+' :: r => r
    | cs => cs
  if ds.isEmpty || !ds.all Char.isDigit then none else some (natOfDigits 10 ds)

/-- A threshold by its number, 0 to 5, or by its name in any case; no name means errors. -/
def threshold? (text : String) : Option Threshold :=
  match number? text.toList with
  | some n => thresholdOfNumber? n
  | none => thresholdOfName? (lowerAscii text)

/-! ## Fields -/

def isExponent : List Char → Bool
  | [] => true
  | c :: r =>
    let ds := match r with
      | '+' :: r | '-' :: r => r
      | r => r
    (c == 'e' || c == 'E') && !ds.isEmpty && ds.all Char.isDigit

/-- Digits with or without a point and an exponent. -/
def isDecimal (cs : List Char) : Bool :=
  let whole := cs.takeWhile Char.isDigit
  let (fraction, rest) := match cs.dropWhile Char.isDigit with
    | '.' :: r => (r.takeWhile Char.isDigit, r.dropWhile Char.isDigit)
    | r => ([], r)
  !(whole.isEmpty && fraction.isEmpty) && isExponent rest

def isNumber (text : String) : Bool :=
  let cs := match text.toList with
    | '+' :: r | '-' :: r => r
    | cs => cs
  isDecimal cs || ["inf", "infinity", "nan"].contains (lowerAscii (String.ofList cs))

/-- A field that something has to have. -/
structure Field where
  name : String
  /-- Whether its value has to be a certain one too. -/
  valued : Bool
  deriving DecidableEq, Repr

/-- Reads a field. Its value is a number or a pattern; the words for truth are patterns, and a
second equals sign ends the value. -/
def Field.parse? (text : String) : Option Field :=
  let name := String.ofList (text.toList.takeWhile (· != '='))
  match text.toList.dropWhile (· != '=') with
  | [] => if text.isEmpty then none else some ⟨name, false⟩
  | _ :: r =>
    let value := String.ofList (r.takeWhile (· != '='))
    if isNumber value || Pattern.isPattern value then some ⟨name, true⟩ else none

/-! ## Directives -/

structure Directive where
  /-- What the target has to begin with. -/
  target : Option String := none
  /-- The name of the spans that the directive concerns. -/
  span : Option String := none
  field : Option Field := none
  threshold : Threshold := some .trace
  deriving DecidableEq, Repr

/-- What a walk over a directive is in; the numbers are places, in bytes. -/
inductive Part where
  | beginning
  | word (start : Nat)
  | span (start : Nat)
  | field (start : Nat)
  | fieldEnd
  | bracketEnd
  | threshold (start : Nat)
  deriving DecidableEq, Repr

/-- A directive as far as it has been read. -/
structure Draft where
  part : Part := .beginning
  target : Option String := none
  span : Option String := none
  field : Option Field := none
  deriving DecidableEq, Repr

namespace Draft

/-- The characters that may begin a target. -/
def isTargetStart (c : Char) : Bool := c == '-' || c == ':' || c == '_' || isAlphanumeric c

/-- Takes the character at a place. -/
def step (text : String) (d : Draft) (place : Nat) (c : Char) : Option Draft :=
  match d.part, c with
  | .beginning, '[' => some { d with part := .span (place + 1) }
  | .beginning, c => if isTargetStart c then some { d with part := .word place } else none
  | .word start, '=' =>
    (slice? text start place).map fun s => { d with part := .threshold (place + 1), target := some s }
  | .word start, '[' =>
    (slice? text start place).map fun s => { d with part := .span (place + 1), target := some s }
  | .span start, ']' =>
    (slice? text start place).map fun s => { d with part := .bracketEnd, span := some s }
  | .span start, '\x7b' =>
    (slice? text start place).map fun s =>
      { d with part := .field (place + 1), span := if s.isEmpty then none else some s }
  | .field start, '\x7d' =>
    ((slice? text start place).bind Field.parse?).map fun f =>
      { d with part := .fieldEnd, field := some f }
  | .fieldEnd, ']' => some { d with part := .bracketEnd }
  | .fieldEnd, _ => none
  | .bracketEnd, '=' => some { d with part := .threshold (place + 1) }
  | .bracketEnd, _ => none
  | .word _, _ | .span _, _ | .field _, _ | .threshold _, _ => some d

/-- Takes characters that begin at a place. -/
def steps (text : String) (d : Draft) (place : Nat) : List Char → Option Draft
  | [] => some d
  | c :: r => (d.step text place c).bind fun d => d.steps text (place + c.utf8Size) r

/-- Ends the walk. -/
def finish (text : String) (d : Draft) : Option Directive :=
  let { target, span, field, .. } := d
  match d.part with
  | .word start =>
    (slice? text start text.utf8ByteSize).map fun s =>
      match threshold? s with
      | some threshold => { target, span, field, threshold }
      | none => { target := some s, span, field }
  | .threshold start => do
    let s ← slice? text start text.utf8ByteSize
    if s.isEmpty then some { target, span, field }
    else (threshold? s).map fun threshold => { target, span, field, threshold }
  | .bracketEnd => some { target, span, field }
  | _ => none

end Draft

namespace Directive

/-- A directive; none for a text that is none. -/
def parse? (text : String) : Option Directive :=
  (({} : Draft).steps text 0 (trimChars text.toList)).bind (Draft.finish text)

/-- Whether a directive looks at spans: it names some, or asks for the value of a field. -/
def isOfSpans (d : Directive) : Bool := d.span.isSome || d.field.any Field.valued

/-- Whether a directive concerns a notice. A notice is in no span. -/
def concerns (d : Directive) (n : Notice) : Bool :=
  !d.isOfSpans && d.target.all (fun t => t.toList.isPrefixOf n.target.toList)
    && d.field.all fun f => ("message" :: n.fields.map (·.1)).contains f.name

/-- How special a directive is: a longer target first, then a field. -/
def rank (d : Directive) : Nat × Nat :=
  (d.target.elim 0 fun t => t.utf8ByteSize + 1, if d.field.isSome then 1 else 0)

/-- What directives of one rank are ordered by. -/
def key (d : Directive) : String × String := (d.target.getD "", d.field.elim "" Field.name)

/-- Whether a directive goes before another one; of two with the same target and field, each goes
before the other. -/
def goesBefore (d e : Directive) : Bool :=
  let (a, b) := (d.rank, e.rank)
  let (s, t) := (d.key, e.key)
  if a.1 ≠ b.1 then b.1 < a.1
  else if a.2 ≠ b.2 then b.2 < a.2
  else if s.1 ≠ t.1 then t.1 < s.1
  else t.2 = s.2 || t.2 < s.2

end Directive

end ModuleHost.Log
