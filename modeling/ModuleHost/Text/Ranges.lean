/-!
# Tables of characters

A set of characters is given by the closed ranges of its code points, in ascending
order. A look-up stops at the first range that lies above the code point.
-/
namespace ModuleHost.Text

/-- Membership in ascending ranges. -/
def inRanges (n : Nat) : List (Nat × Nat) → Bool
  | [] => false
  | (low, high) :: rest =>
    if n < low then false else if n ≤ high then true else inRanges n rest

end ModuleHost.Text
