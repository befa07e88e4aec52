/-!
# Ranges of code points

A set of characters given by a standard is kept as closed ranges of code points in ascending order,
so that its table can be compared with the standard line by line.
-/

namespace ViewCode.Text

/-- Closed ranges of code points, each given by its first and its last member. -/
abbrev CodeRanges := List (Nat × Nat)

/-- Whether the character lies in one of the ranges. -/
def CodeRanges.covers (ranges : CodeRanges) (c : Char) : Bool :=
  ranges.any fun range => range.1 ≤ c.toNat && c.toNat ≤ range.2

end ViewCode.Text
