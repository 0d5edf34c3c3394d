/-!
# Command lines

    modhost [--config FILE] call [MODULE] [options]
    modhost [--config FILE] inspect [MODULE]

An option with a value takes the rest of its argument or the next argument, which
must not look like an option. Short options may be joined in one argument. After
`--` everything is a module. `--config` may also follow the command, where it wins
over one before it. Everything else that is given twice is refused, headers
excepted.
-/
namespace ModuleHost.Cli

/-- What a command line, or help, is about. -/
inductive Topic where
  | program | call | inspect | help
  deriving DecidableEq, Repr

/-- Why a command line asks for nothing to be done. -/
inductive Stop where
  | misuse
  | help (t : Topic)
  | version
  deriving DecidableEq, Repr

inductive Switch where
  | config | method | uri | header | body | repetitions | concurrency
  | proxy | json | help | version
  deriving DecidableEq, Repr

def Switch.takesValue : Switch → Bool
  | .proxy | .json | .help | .version => false
  | _ => true

/-- The switches of a place in the command line, by their long names. -/
def longSwitches : Topic → List (String × Switch)
  | .program => [("config", .config), ("help", .help), ("version", .version)]
  | .call =>
    [("config", .config), ("method", .method), ("uri", .uri), ("header", .header), ("body", .body),
      ("repeat", .repetitions), ("concurrency", .concurrency), ("proxy", .proxy), ("json", .json),
      ("help", .help)]
  | .inspect => [("config", .config), ("help", .help)]
  | .help => []

def shortSwitches : Topic → List (Char × Switch)
  | .program => [('h', .help), ('V', .version)]
  | .call =>
    [('X', .method), ('u', .uri), ('H', .header), ('b', .body), ('n', .repetitions),
      ('c', .concurrency), ('h', .help)]
  | .inspect => [('h', .help)]
  | .help => []

/-- What a command line has given so far. -/
structure Given where
  config : Option String := none
  module : Option String := none
  method : Option String := none
  uri : Option String := none
  headers : List String := []
  body : Option String := none
  repetitions : Option Nat := none
  concurrency : Option Nat := none
  proxy : Bool := false
  json : Bool := false
  deriving DecidableEq, Repr

/-- A count: digits after a plus sign that may be missing, of at most 64 bits. -/
def count? (text : String) : Option Nat :=
  let digits := match text.toList with
    | '+' :: r => r
    | cs => cs
  if digits.isEmpty || !digits.all Char.isDigit then none
  else
    let n := digits.foldl (fun n c => n * 10 + (c.toNat - 0x30)) 0
    if n < UInt64.size then some n else none

namespace Given

/-- Sets what has not been set. -/
def once {α : Type} (old : Option α) (new : Option α) (g : α → Given) : Except Stop Given :=
  match old, new with
  | none, some a => .ok (g a)
  | _, _ => .error .misuse

/-- Takes a switch with its value. -/
def give (g : Given) (s : Switch) (value : String) : Except Stop Given :=
  match s with
  | .config => once g.config (if value.isEmpty then none else some value) fun v => { g with config := some v }
  | .method => once g.method (some value) fun v => { g with method := some v }
  | .uri => once g.uri (some value) fun v => { g with uri := some v }
  | .header => .ok { g with headers := g.headers ++ [value] }
  | .body => once g.body (some value) fun v => { g with body := some v }
  | .repetitions => once g.repetitions (count? value) fun v => { g with repetitions := some v }
  | .concurrency => once g.concurrency (count? value) fun v => { g with concurrency := some v }
  | .proxy | .json | .help | .version => .error .misuse

/-- Takes a switch without a value. -/
def turn (t : Topic) (g : Given) : Switch → Except Stop Given
  | .proxy => if g.proxy then .error .misuse else .ok { g with proxy := true }
  | .json => if g.json then .error .misuse else .ok { g with json := true }
  | .help => .error (.help t)
  | .version => .error .version
  | _ => .error .misuse

def addModule (g : Given) (name : String) : Except Stop Given :=
  once g.module (some name) fun v => { g with module := some v }

end Given

/-- An argument that can be a value: it does not look like an option. -/
def isValue (a : String) : Bool := a == "-" || a.toList.head? != some '-'

/-- What an argument with one dash or two says: the switch, and the value joined to it. -/
inductive Reading where
  | switch (s : Switch) (value : Option String)
  | unknown

/-- Splits at the first equals sign. -/
def splitEquals (cs : List Char) : String × Option String :=
  (String.ofList (cs.takeWhile (· != '=')),
    match cs.dropWhile (· != '=') with
    | [] => none
    | _ :: r => some (String.ofList r))

def readLong (t : Topic) (cs : List Char) : Reading :=
  let (name, value) := splitEquals cs
  match (longSwitches t).lookup name with
  | some s => .switch s value
  | none => .unknown

/-- A short option; those that take no value all end the command line, so nothing is joined to
them. -/
def readShort (t : Topic) : List Char → Reading
  | [] => .unknown
  | c :: r =>
    match (shortSwitches t).lookup c with
    | none => .unknown
    | some s =>
      .switch s (match s.takesValue, r with
        | false, _ => none
        | true, [] => none
        | true, '=' :: r => some (String.ofList r)
        | true, r => some (String.ofList r))

/-- What an argument is. -/
inductive Argument where
  | word (a : String)
  /-- `--` -/
  | endOfOptions
  | option (r : Reading)

def Argument.of (t : Topic) (a : String) : Argument :=
  match a.toList with
  | ['-'] => .word a
  | ['-', '-'] => .endOfOptions
  | '-' :: '-' :: r => .option (readLong t r)
  | '-' :: r => .option (readShort t r)
  | _ => .word a

/-- Takes an option; the result tells whether its value is the next argument. -/
def takeOption (t : Topic) (g : Given) : Reading → Except Stop (Given × Option Switch)
  | .unknown => .error .misuse
  | .switch s value =>
    match s.takesValue, value with
    | true, some v => (g.give s v).map (·, none)
    | true, none => .ok (g, some s)
    | false, some _ => .error .misuse
    | false, none => (g.turn t s).map (·, none)

/-- Reads the arguments of a command. `awaiting` is the option whose value comes next, and
`words` says that there are no more options. -/
def readCommand (t : Topic) (awaiting : Option Switch) (words : Bool) (g : Given) :
    List String → Except Stop Given
  | [] => if awaiting.isSome then .error .misuse else .ok g
  | a :: rest =>
    match awaiting with
    | some s =>
      if isValue a then
        match g.give s a with
        | .error e => .error e
        | .ok g => readCommand t none false g rest
      else .error .misuse
    | none =>
      match if words then Argument.word a else Argument.of t a with
      | .word a =>
        match g.addModule a with
        | .error e => .error e
        | .ok g => readCommand t none words g rest
      | .endOfOptions => readCommand t none true g rest
      | .option r =>
        match takeOption t g r with
        | .error e => .error e
        | .ok (g, awaiting) => readCommand t awaiting false g rest

/-- What a command does. -/
inductive Verb where
  | call | inspect
  deriving DecidableEq, Repr

structure Command where
  verb : Verb
  given : Given
  deriving DecidableEq, Repr

def topicOf : Verb → Topic
  | .call => .call
  | .inspect => .inspect

def verbOfName? : String → Option Verb
  | "call" => some .call
  | "inspect" => some .inspect
  | _ => none

/-- What `help` says about the words after it. -/
def readHelp : List String → Stop
  | [] => .help .program
  | ["call"] => .help .call
  | ["inspect"] => .help .inspect
  | ["help"] => .help .help
  | _ => .misuse

/-- Reads a whole command line. -/
def read (awaiting : Option Switch) (g : Given) : List String → Except Stop Command
  | [] => .error .misuse
  | a :: rest =>
    match awaiting with
    | some s =>
      if isValue a then
        match g.give s a with
        | .error e => .error e
        | .ok g => read none g rest
      else .error .misuse
    | none =>
      match Argument.of .program a with
      | .endOfOptions => .error .misuse
      | .word a =>
        if a = "help" then .error (readHelp rest)
        else match verbOfName? a with
          | none => .error .misuse
          | some verb =>
            match readCommand (topicOf verb) none false {} rest with
            | .error e => .error e
            | .ok sub => .ok { verb, given := { sub with config := sub.config.orElse fun _ => g.config } }
      | .option r =>
        match takeOption .program g r with
        | .error e => .error e
        | .ok (g, awaiting) => read awaiting g rest

def parse (args : List String) : Except Stop Command := read none {} args

end ModuleHost.Cli
