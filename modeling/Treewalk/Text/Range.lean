/-! # Ranges of code points

Properties of characters are given by ranges of code points, both ends included. -/

namespace Treewalk.Text

/-- The character lies in one of the ranges. -/
def inRanges (ranges : List (Nat × Nat)) (c : Char) : Bool :=
  ranges.any fun (first, last) => first ≤ c.toNat && c.toNat ≤ last

end Treewalk.Text
