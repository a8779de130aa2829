/-!
# Sets of code points

A property of characters is kept as a list of ranges of code points, or of runs with a step where
upper and lower case alternate. Both are read by one membership test each.
-/

namespace LineShell.Text

/-- Closed ranges of code points, in increasing order. -/
abbrev Ranges := List (Nat × Nat)

/-- Runs of code points `(first, last, step)`, in increasing order. -/
abbrev Runs := List (Nat × Nat × Nat)

/-- Whether a code point lies in one of the ranges. -/
def Ranges.has (ranges : Ranges) (n : Nat) : Bool :=
  ranges.any fun r => r.1 ≤ n && n ≤ r.2

/-- Whether a code point is hit by one of the runs. -/
def Runs.has (runs : Runs) (n : Nat) : Bool :=
  runs.any fun r => r.1 ≤ n && n ≤ r.2.1 && (n - r.1) % r.2.2 == 0

end LineShell.Text
