import ModuleHost.Log.Directive

/-!
# Log filters

A filter is a list of directives, separated by commas. Of those that concern a notice,
the most special one decides; where two are written for the same target and field, the
later one holds. A text without directives lets errors through.
-/
namespace ModuleHost.Log

open Text

abbrev Filter := List Directive

namespace Filter

/-- The parts of a text between commas, without the empty ones. -/
def parts (text : String) : List String :=
  (text.toList.foldr (fun c (ps : List (List Char)) => match ps with
    | p :: rest => if c = ',' then [] :: p :: rest else (c :: p) :: rest
    | [] => []) [[]]).filterMap fun p => if p.isEmpty then none else some (String.ofList p)

/-- The filter that a text describes, none if a part is no directive. -/
def parse? (text : String) : Option Filter :=
  ((parts text).mapM Directive.parse?).map fun ds =>
    if ds.isEmpty then [{ threshold := some .error }] else ds

/-- The directive that decides. -/
def deciding? (f : Filter) (n : Notice) : Option Directive :=
  (f.filter (·.concerns n)).foldl
    (fun best d => if best.all d.goesBefore then some d else best) none

def allows (f : Filter) (n : Notice) : Bool := (f.deciding? n).any fun d => d.threshold.allows n.level

def info : Filter := [{ threshold := some .info }]

def warn : Filter := [{ threshold := some .warn }]

/-- The host's filter: what the environment says, else what the configuration says. -/
def ofHost (environment : Option String) (level : String) : Filter :=
  ((environment.bind parse?).orElse fun _ => parse? level).getD info

/-- The filter of a module's own log. -/
def ofModule (environment : Option String) : Filter := (environment.bind parse?).getD warn

end Filter

end ModuleHost.Log
