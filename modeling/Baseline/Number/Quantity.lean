import Baseline.Number.Binary64

/-!
# Quantities

A quantity is an integer or a floating-point number. Integers are subtracted exactly; when one of
two quantities is a floating-point number, so is their difference. Comparison is always exact.
-/

namespace Baseline

/-- An integer or a floating-point number. -/
inductive Quantity where
  | int (n : Int)
  | float (x : Binary64)
  deriving DecidableEq, Repr

namespace Quantity

/-- The nearest floating-point number. -/
def toFloat : Quantity → Binary64
  | .int n => .ofInt n
  | .float x => x

/-- The difference of two quantities. -/
def sub : Quantity → Quantity → Quantity
  | .int m, .int n => .int (m - n)
  | x, y => .float (x.toFloat - y.toFloat)

instance : Sub Quantity := ⟨sub⟩

/-- Whether the first quantity is less than the second one. -/
def less : Quantity → Quantity → Bool
  | .int m, .int n => m < n
  | .float x, .float y => x.lt y
  | .int n, .float (.finite negative m e) => Binary64.compareInt n negative m e == .lt
  | .float (.finite negative m e), .int n => Binary64.compareInt n negative m e == .gt
  | .int _, .float y => y == .infinite false
  | .float x, .int _ => x == .infinite true

instance : LT Quantity := ⟨fun x y => less x y = true⟩

instance : DecidableLT Quantity := fun x y => inferInstanceAs (Decidable (less x y = true))

end Quantity

end Baseline
