/-!
# Durations as texts

A duration is written in the largest unit that it fills once, with two decimals; a
half goes up.
-/
namespace ModuleHost.Cli

/-- The unit of a duration: its length in nanoseconds, and its name. -/
def durationUnit (nanos : Nat) : Nat × String :=
  if 1000000000 ≤ nanos then (1000000000, "s")
  else if 1000000 ≤ nanos then (1000000, "ms")
  else if 1000 ≤ nanos then (1000, "µs")
  else (1, "ns")

def twoDigits (n : Nat) : String := (if n < 10 then "0" else "") ++ toString n

def durationText (nanos : Nat) : String :=
  let (unit, name) := durationUnit nanos
  let hundredths := (200 * nanos + unit) / (2 * unit)
  toString (hundredths / 100) ++ "." ++ twoDigits (hundredths % 100) ++ name

/-- The mean length of a call, where all calls together took `nanos`. -/
def share (nanos calls : Nat) : Nat := nanos / max calls 1

end ModuleHost.Cli
