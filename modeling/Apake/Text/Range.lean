/-!
# Ranges of code points

A set of code points is kept as the first and the last one of each of its ranges.
-/

namespace Apake.Text

/-- Ranges of code points, each by its first and its last one. -/
abbrev Ranges := List (Nat × Nat)

/-- Whether a code point lies in one of the ranges. -/
def Ranges.has (ranges : Ranges) (n : Nat) : Bool :=
  ranges.any fun (first, last) ↦ first ≤ n && n ≤ last

end Apake.Text
