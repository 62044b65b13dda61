/-!
# Character properties as ranges

A property of characters is a list of inclusive ranges of code points.
-/

namespace Baseline.Text.Property

/-- A character whose code point lies in one of the ranges. -/
def inRanges (ranges : List (Nat × Nat)) (c : Char) : Bool :=
  ranges.any fun (first, last) => first ≤ c.toNat && c.toNat ≤ last

end Baseline.Text.Property
