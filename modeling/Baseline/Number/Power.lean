/-!
# Powers

The powers that scale binary and decimal numbers.
-/

namespace Baseline.Number

/-- A power of two. -/
def twoTo (exponent : Nat) : Nat := Nat.pow 2 exponent

/-- A power of ten. -/
def tenTo (exponent : Nat) : Nat := Nat.pow 10 exponent

end Baseline.Number
