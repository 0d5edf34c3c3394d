import ModuleHost.Cli.Pool
import ModuleHost.Text.Json

/-!
# Summaries of calls

What the calls through a module came to, as a text or as JSON. What depends on the
clock comes with the `Figures`.
-/
namespace ModuleHost.Cli

open Text

structure Summary where
  /-- The module's name. -/
  module : String
  proxy : Bool
  /-- What the first call came to. -/
  first : Delivery
  /-- The statuses of all calls, the first one's included. -/
  statuses : List UInt16
  workers : Nat
  /-- The most calls that were inside at one time. -/
  peak : Nat
  deriving DecidableEq, Repr

/-- Measured values: as texts for the text, and in microseconds. -/
structure Figures where
  elapsed : String
  mean : String
  peak : String
  elapsedMicros : Nat
  firstMicros : Nat
  peakCount : Nat
  deriving DecidableEq, Repr

namespace Summary

/-- How often each status occurs, statuses ascending. -/
def tally (statuses : List UInt16) : List (Nat × Nat) :=
  let numbers := statuses.map UInt16.toNat
  (numbers.eraseDups.mergeSort fun a b => decide (a ≤ b)).map fun s => (s, numbers.count s)

def targetLine (d : Delivery) : String :=
  match d.target with
  | some target => "Upstream: " ++ target ++ " " ++ d.uri ++ "\n"
  | none => "Upstream: not proxied\n"

def responseText (r : Summary) : String :=
  (if r.proxy then targetLine r.first else "")
    ++ "Status: " ++ toString r.first.response.status.toNat ++ "\n"
    ++ String.join (r.first.response.headers.toList.map fun (k, v) => k ++ ": " ++ v ++ "\n")
    ++ "\n" ++ decodeLossy r.first.response.body

def summaryText (r : Summary) (f : Figures) : String :=
  "\nSummary\n=======\nRequests:    " ++ toString r.statuses.length ++ " over "
    ++ toString r.workers ++ " worker(s) in " ++ f.elapsed ++ "\nMean call:   " ++ f.mean
    ++ "\nPeak calls:  " ++ f.peak ++ "\n"
    ++ String.join ((tally r.statuses).map fun (s, n) =>
      "Status " ++ toString s ++ ":  " ++ toString n ++ "\n")

/-- The first response; where there are more calls, a summary of all. -/
def text (r : Summary) (f : Figures) : String :=
  r.responseText ++ if r.statuses.length > 1 then r.summaryText f else ""

/-- The entries of an object, in the order of their keys. -/
def sorted (entries : List (String × Json)) : Json :=
  .object (entries.mergeSort fun a b => decide (a.1 ≤ b.1))

def json (r : Summary) (f : Figures) : Json :=
  sorted
    [("module", .string r.module),
     ("requests", .number r.statuses.length),
     ("concurrency", .number r.workers),
     ("elapsed_us", .number f.elapsedMicros),
     ("peak_concurrency", .number f.peakCount),
     ("statuses", sorted ((tally r.statuses).map fun (s, n) => (toString s, .number n))),
     ("response", sorted
       [("status", .number r.first.response.status.toNat),
        ("headers", sorted (r.first.response.headers.toList.map fun (k, v) => (k, .string v))),
        ("body", .string (decodeLossy r.first.response.body)),
        ("uri", .string r.first.uri),
        ("upstream", r.first.target.elim .null .string),
        ("elapsed_us", .number f.firstMicros)])]

end Summary

end ModuleHost.Cli
