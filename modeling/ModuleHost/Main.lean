import ModuleHost.Cli.Duration
import ModuleHost.Cli.Run
import ModuleHost.Demo.Libraries

/-!
# The command line program

Reads the files that a run may look at, runs it, and prints what it has to say.
The libraries that can be opened are those of `ModuleHost.Demo`.
-/
namespace ModuleHost.Cli

open Text File

/-- Adds a file to a tree, with the directories on the way to it. -/
def addFile (t : Tree) (path : String) (bytes : Bytes) : Tree :=
  let t := t.makeDirectories (Tree.splitLast path).1
  (t.write? path bytes).getD t

/-- Copies what is found under a path into a tree. -/
def copyInto (t : Tree) (path : String) : IO Tree := do
  let p := (← IO.currentDir) / path
  if ← p.isDir then return t.makeDirectories path
  else if ← p.pathExists then return addFile t path (← IO.FS.readBinFile p).toList
  else return t

def copyAll (s : Surroundings) (args : List String) : IO Surroundings := do
  let tree ← (wanted s args).foldlM copyInto s.tree
  return { s with tree }

def surroundings : IO Surroundings := do
  let here := (← IO.currentDir).toString
  return {
    tree := (Tree.makeDirectories {} here).enter here
    linker := Demo.library?
    libraryPath := ← IO.getEnv "LD_LIBRARY_PATH"
    logFilter := ← IO.getEnv "RUST_LOG" }

def Log.text : ModuleHost.Log.Line → String
  | .plain s => s
  | .json o => o.compact

def figures (nanos : Nat) : Output → Figures
  | .text _ => ⟨"", "", "", 0, 0, 0⟩
  | .summary _ s =>
    let mean := share nanos s.statuses.length
    { elapsed := durationText nanos, mean := durationText mean, peak := toString s.peak,
      elapsedMicros := nanos / 1000, firstMicros := mean / 1000, peakCount := s.peak }

def finish (nanos : Nat) : Verdict → IO UInt32
  | .stopped .misuse => do
    IO.eprint misuseText
    return 2
  | .stopped (.help t) => do
    IO.print (helpText t)
    return 0
  | .stopped .version => do
    IO.print versionText
    return 0
  | .done printed log result => do
    IO.print printed
    log.forM fun l => IO.eprintln (Log.text l)
    match result with
    | .ok o =>
      IO.print (o.render (figures nanos o))
      return 0
    | .error e =>
      IO.eprint e.text
      return 1

end ModuleHost.Cli

open ModuleHost.Cli

def main (args : List String) : IO UInt32 := do
  let s ← surroundings
  let s ← copyAll s args
  let s ← copyAll s args
  let started ← IO.monoNanosNow
  let verdict := run s args
  let ended ← IO.monoNanosNow
  finish (ended - started) verdict
