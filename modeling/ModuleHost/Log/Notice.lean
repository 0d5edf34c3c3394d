import ModuleHost.Boundary.Abi
import ModuleHost.Instance.State
import ModuleHost.Message.Header

/-!
# Log notices

A `Notice` is one thing worth telling, by its cause. `level`, `target`, `message`
and `fields` say how it appears in a log.
-/
namespace ModuleHost

open Boundary

inductive Level where
  | error | warn | info | debug | trace
  deriving DecidableEq, Repr

namespace Level

def name : Level → String
  | .error => "ERROR"
  | .warn => "WARN"
  | .info => "INFO"
  | .debug => "DEBUG"
  | .trace => "TRACE"

/-- How talkative a level is: errors come first. -/
def rank : Level → Nat
  | .error => 1
  | .warn => 2
  | .info => 3
  | .debug => 4
  | .trace => 5

end Level

/-- The value of a field: a number, a text that a line-oriented log quotes, or a text that
it shows as it is. -/
inductive FieldValue where
  | number (n : Int)
  | text (s : String)
  | shown (s : String)
  deriving DecidableEq, Repr

inductive Notice where
  | headerRejected (e : HeaderError)
  | contextInitialized (generation : Nat)
  | initFailed (error : String)
  | initPanicked (message : String)
  | loadOnLive
  | requestAfterUnload
  | nullHandle (proxy : Bool)
  | handlerPanicked (message method uri : String)
  | proxyPanicked (message : String)
  | targetNull
  | tornDown (generation : Nat)
  | shutdownFailed (generation : Nat) (error : String)
  | shutdownPanicked (generation : Nat) (message : String)
  | dropPanicked (generation : Nat)
  | unloadFresh
  | unloadTwice
  | callRefused (module : String) (state : InstanceState)
  | moduleInitFailed (module : String) (code : Int)
  | moduleLoaded (module : String) (exports : Exports)
  | moduleUnloaded (module : String) (served drained : Nat)
  | headerNotSet (error : String)
  | diagnosticFailed (error : String)
  deriving DecidableEq, Repr

namespace Notice

def level : Notice → Level
  | .headerRejected _ | .contextInitialized _ | .tornDown _ | .unloadFresh => .debug
  | .moduleLoaded .. | .moduleUnloaded .. => .info
  | .loadOnLive | .shutdownFailed .. | .unloadTwice | .callRefused .. | .headerNotSet _
  | .diagnosticFailed _ => .warn
  | .initFailed _ | .initPanicked _ | .requestAfterUnload | .nullHandle _ | .handlerPanicked ..
  | .proxyPanicked _ | .targetNull | .shutdownPanicked .. | .dropPanicked _
  | .moduleInitFailed .. => .error

/-- The part of the program that speaks. -/
def target : Notice → String
  | .headerRejected _ => "modhost::host::bridge"
  | .callRefused .. | .moduleInitFailed .. | .moduleLoaded .. | .moduleUnloaded .. =>
    "modhost::host::instance"
  | .headerNotSet _ | .diagnosticFailed _ => "modhost_demo"
  | _ => "modhost::module::context"

/-- Whether a module says it. A module in a library of its own has a log of its own. -/
def isModules : Notice → Bool
  | .headerRejected _ | .callRefused .. | .moduleInitFailed .. | .moduleLoaded ..
  | .moduleUnloaded .. => false
  | _ => true

def message : Notice → String
  | .headerRejected _ => "module header rejected"
  | .contextInitialized _ => "module context initialized"
  | .initFailed _ => "module initialization failed"
  | .initPanicked _ => "module initialization panicked"
  | .loadOnLive => "OnLoad called on a live module; keeping current state"
  | .requestAfterUnload => "request after OnUnload; handles left untouched"
  | .nullHandle false => "HandleRequest called with a null handle"
  | .nullHandle true => "HandleProxyRequest called with a null or read-only handle"
  | .handlerPanicked .. => "handler panicked"
  | .proxyPanicked _ => "proxy handler panicked"
  | .targetNull => "proxy target handle is null"
  | .tornDown _ => "module context torn down"
  | .shutdownFailed .. => "module shutdown failed"
  | .shutdownPanicked .. => "module shutdown panicked"
  | .dropPanicked _ => "module state panicked while dropping"
  | .unloadFresh => "OnUnload before any initialization"
  | .unloadTwice => "OnUnload called twice; ignoring"
  | .callRefused .. => "call refused"
  | .moduleInitFailed .. => "module failed to initialize"
  | .moduleLoaded .. => "module loaded"
  | .moduleUnloaded .. => "module unloaded"
  | .headerNotSet _ => "header not set"
  | .diagnosticFailed _ => "diagnostic write failed"

/-- The fields, in the order in which a log shows them. -/
def fields : Notice → List (String × FieldValue)
  | .headerRejected e => [("error", .shown e.message)]
  | .contextInitialized g => [("generation", .number g)]
  | .initFailed e => [("error", .shown e)]
  | .initPanicked p => [("panic", .text p)]
  | .handlerPanicked p method uri => [("panic", .text p), ("method", .text method), ("uri", .text uri)]
  | .proxyPanicked p => [("panic", .text p)]
  | .tornDown g => [("generation", .number g)]
  | .shutdownFailed g e => [("generation", .number g), ("error", .shown e)]
  | .shutdownPanicked g p => [("generation", .number g), ("panic", .text p)]
  | .dropPanicked g => [("generation", .number g)]
  | .callRefused m s => [("module", .shown m), ("state", .shown s.name)]
  | .moduleInitFailed m code => [("module", .shown m), ("code", .number code)]
  | .moduleLoaded m x => [("module", .shown m), ("exports", .shown x.listText)]
  | .moduleUnloaded m served drained =>
    [("module", .shown m), ("calls_served", .number served), ("calls_drained", .number drained)]
  | .headerNotSet e | .diagnosticFailed e => [("error", .shown e)]
  | .loadOnLive | .requestAfterUnload | .nullHandle _ | .targetNull | .unloadFresh
  | .unloadTwice => []

end Notice

end ModuleHost
