/-!
# Tables of code points

A class of characters is given by ranges of code points.
-/

namespace ForestQuery.Text

/-- Ranges of code points with their ends. -/
abbrev Ranges := List (Nat × Nat)

/-- Whether one of the ranges holds a code point. -/
def Ranges.holds (ranges : Ranges) (n : Nat) : Bool :=
  ranges.any fun range => range.1 ≤ n && n ≤ range.2

end ForestQuery.Text
