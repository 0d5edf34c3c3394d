import ModuleHost.Cli.Arguments
import ModuleHost.Cli.Failure
import ModuleHost.Cli.Help
import ModuleHost.Cli.Summary
import ModuleHost.Config.Store
import ModuleHost.Loader.Registry
import ModuleHost.Log.Line

/-!
# Running a command

A run reads its command line, loads the configuration, sets up the log and does
what the command says. `inspect` opens a library without starting the module.
`call` loads a module, sends requests through it, unloads it and reports. What
fails is told, and whatever was loaded is unloaded first.
-/
namespace ModuleHost.Cli

open Text File Boundary

/-- What a run finds around it. -/
structure Surroundings where
  tree : Tree
  linker : Bytes → Option Library
  /-- Directories with libraries, separated by colons. -/
  libraryPath : Option String := none
  /-- Filter directives for the log. -/
  logFilter : Option String := none

/-- What a command that has come to its end has to say. -/
inductive Output where
  | text (s : String)
  | summary (json : Bool) (s : Summary)

def Output.render (f : Figures) : Output → String
  | .text s => s
  | .summary true r => (r.json f).spread 0 ++ "\n"
  | .summary false r => r.text f

/-- A command that has been carried out: the machine at its end, and what it comes to. -/
structure Finished where
  system : System
  result : Except Failure Output

/-- How a run ends. -/
inductive Verdict where
  | stopped (s : Stop)
  /-- `printed` is what modules have printed, `log` is in the order of the events. -/
  | done (printed : String) (log : List Log.Line) (result : Except Failure Output)

/-! ## The request -/

/-- Splits a header at its first colon. -/
def splitHeader? (text : String) : Option (String × String) :=
  match text.toList.dropWhile (· != ':') with
  | [] => none
  | _ :: value => some (String.ofList (text.toList.takeWhile (· != ':')), String.ofList value)

def addHeaders (r : Request) : List String → Except Failure Request
  | [] => .ok r
  | h :: rest =>
    match splitHeader? h with
    | none => .error (.badHeader h)
    | some (name, value) => addHeaders (r.setHeader name value) rest

def buildRequest (g : Given) : Except Failure Request :=
  (addHeaders (Request.new (g.method.getD "GET") (g.uri.getD "/")) g.headers).map fun r =>
    g.body.elim r fun b => r.withBody (encode b)

/-! ## Commands -/

def moduleName? (g : Given) (c : Config) : Except Failure String :=
  match g.module.orElse fun _ => c.module.path with
  | some name => .ok name
  | none => .error .noModule

/-- The directories that the linker itself looks into. -/
def linkerPaths (libraryPath : Option String) : List String :=
  match libraryPath with
  | none => []
  | some text => if text.isEmpty then [] else
    (Loader.splitPaths (text.map fun c => if c = ';' then ':' else c))

def hostOf (s : Surroundings) : Host :=
  { tree := s.tree, linker := s.linker, linkerPaths := linkerPaths s.libraryPath }

def loaderOf (s : Surroundings) (c : Config) : Loader :=
  c.module.searchPaths.foldl Loader.addSearchPath
    (Loader.new (placeText s.tree.current) s.libraryPath c.instanceOptions.requireAbiVersion)

/-- Enough steps for a thread with a short program. -/
def threadFuel : Nat := 1000

/-- Runs a task on a new thread. -/
def perform (s : System) (k : Task) : System × Option Report :=
  let t := s.threads.length
  let s := (s.spawn k).run .rest t threadFuel
  (s, s.report? t)

def abiText (abi : Option Int) : String :=
  match abi with
  | none => "not reported"
  | some v =>
    if v = abiVersion.toNat then toString v
    else toString v ++ " (incompatible, host speaks " ++ toString abiVersion.toNat ++ ")"

def inspection (path : String) (x : Exports) (abi : Option Int) : String :=
  "Module: " ++ path ++ "\nABI version: " ++ abiText abi ++ "\nEntry points:\n"
    ++ String.join (x.symbols.map fun s => "  " ++ s ++ "\n")

def inspect (h : Host) (l : Loader) (name : String) : Finished :=
  match l.find? h.tree name with
  | none => ⟨h.system, .error (.host (.moduleNotFound name))⟩
  | some path =>
    match h.openLibrary path with
    | .error e => ⟨h.system, .error (.host e)⟩
    | .ok (h, i, exports) =>
      if exports.abiVersion then
        match perform h.system (.hooking i.module .probe .entering) with
        | (s, some (.hooked _ v)) => ⟨s, .ok (.text (inspection path exports (some v)))⟩
        | (s, _) => ⟨s, .error .noOutcome⟩
      else ⟨h.system, .ok (.text (inspection path exports none))⟩

/-- Shuts down every registered instance. -/
def unloadAll (s : System) (l : Loader) : System :=
  l.registry.foldl (fun s e => (perform s (.shutting e.2 .arriving)).1) s

/-- The summary of a pool that has finished. -/
def summaryOf (p : Pool) (proxy : Bool) : Except Failure Summary :=
  match p.outcome with
  | .error e => .error (.host e)
  | .ok [] => .error .noOutcome
  | .ok (first :: rest) =>
    match p.system.instances[p.on]? with
    | none => .error .noOutcome
    | some i =>
      .ok { module := i.name, proxy, first,
            statuses := (first :: rest).map (·.response.status),
            workers := p.workers.length, peak := i.gate.peak }

/-- Enough steps for a pool whose calls are short. -/
def poolFuel (p : Pool) : Nat := p.total * threadFuel + p.workers.length

def call (h : Host) (l : Loader) (name : String) (request : Request) (g : Given)
    (defaultStatus : UInt16) : Finished :=
  match l.begin h name with
  | .error e => ⟨h.system, .error (.host e)⟩
  | .ok (h, todo) =>
    match perform h.system (.opening todo.opening .arriving) with
    | (s, some (.opened (.ok n))) =>
      let p := Pool.start s n g.proxy request defaultStatus (g.repetitions.getD 1) (g.concurrency.getD 1)
      let p := p.run (poolFuel p)
      ⟨unloadAll p.system (l.register todo.key n), (summaryOf p g.proxy).map (.summary g.json)⟩
    | (s, some (.opened (.error e))) => ⟨s, .error (.host e)⟩
    | (s, _) => ⟨s, .error .noOutcome⟩

/-- Carries a command out, with the configuration loaded. -/
def execute (s : Surroundings) (c : Config) (cmd : Command) : Finished :=
  let h := hostOf s
  let l := loaderOf s c
  let failed (e : Failure) : Finished := ⟨h.system, .error e⟩
  match cmd.verb with
  | .inspect =>
    match moduleName? cmd.given c with
    | .error e => failed e
    | .ok name => inspect h l name
  | .call =>
    match buildRequest cmd.given with
    | .error e => failed e
    | .ok request =>
      match moduleName? cmd.given c with
      | .error e => failed e
      | .ok name => call h l name request cmd.given c.host.defaultStatus

def loadConfig (t : Tree) (path : Option String) : Except Failure Config :=
  (match path with
    | some p => Config.load t p
    | none => Config.loadCurrent t).mapError (Failure.config path)

/-! ## Runs -/

/-- The paths that a search for a configuration or a module may come to. -/
def wanted (s : Surroundings) (args : List String) : List String :=
  match parse args with
  | .error _ => []
  | .ok cmd =>
    let configs := cmd.given.config.elim (Config.candidates (placeText s.tree.current)) fun p => [p]
    match loadConfig s.tree cmd.given.config with
    | .error _ => configs
    | .ok c =>
      match moduleName? cmd.given c with
      | .error _ => configs
      | .ok name =>
        configs ++ name :: (loaderOf s c).searchPaths.map fun d => join d (libraryFilename name)

def printedOf (s : System) : String :=
  String.join (s.history.reverse.filterMap fun h =>
    match h.event with | .printed text => some text | _ => none)

def logOf (w : Log.Writer) (s : System) : List Log.Line :=
  s.history.reverse.filterMap fun h =>
    match h.event with | .notice n => w.write? n | _ => none

def run (s : Surroundings) (args : List String) : Verdict :=
  match parse args with
  | .error stop => .stopped stop
  | .ok cmd =>
    match loadConfig s.tree cmd.given.config with
    | .error e => .done "" [] (.error e)
    | .ok c =>
      let f := execute s c cmd
      .done (printedOf f.system) (logOf (Log.Writer.new s.logFilter c.logging) f.system) f.result

end ModuleHost.Cli
