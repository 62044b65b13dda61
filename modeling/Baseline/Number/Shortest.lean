import Baseline.Number.Binary64

/-!
# Shortest decimal text of a floating-point number

The text of a number has the fewest digits that read back as the number; of two decimals with that
many digits it takes the nearer one, and the even one of two equally near ones.
-/

namespace Baseline.Binary64

open Number (twoTo tenTo)

/-- A positive finite number as a fraction. -/
def fraction (significand : Nat) (exponent : Int) : Nat × Nat :=
  if exponent < 0 then (significand, twoTo exponent.natAbs)
  else (significand * twoTo exponent.toNat, 1)

/-- `num / den` divided by a power of ten, as a fraction. -/
def decimallyScaled (num den : Nat) (exponent : Int) : Nat × Nat :=
  if exponent < 0 then (num * tenTo exponent.natAbs, den) else (num, den * tenTo exponent.toNat)

/-- The number of digits that `num / den` has before its decimal point; not positive when zeros
follow the point. -/
def pointOf (num den : Nat) : Int :=
  let guess : Int := ((num.log2 : Int) - den.log2) * 30103 / 100000 - 1
  let tooSmall (point : Int) : Bool :=
    let (n, d) := decimallyScaled num den point
    d ≤ n
  if tooSmall (guess + 2) then guess + 3
  else if tooSmall (guess + 1) then guess + 2
  else if tooSmall guess then guess + 1
  else guess

/-- The decimal with `count` digits nearest to a number, among those that read back as it. -/
def withDigits? (significand : Nat) (exponent : Int) (count : Nat) : Option (Nat × Int) :=
  let (num, den) := fraction significand exponent
  let unit := pointOf num den - count
  let (n, d) := decimallyScaled num den unit
  let below := n / d
  let readsBack (digits : Nat) : Bool :=
    ofDecimal false digits unit == .finite false significand exponent
  match readsBack below, readsBack (below + 1) with
  | true, true => some (roundedQuotient n d, unit)
  | true, false => some (below, unit)
  | false, true => some (below + 1, unit)
  | false, false => none

/-- The digits of the shortest decimal and the exponent of its last digit. -/
def shortest (significand : Nat) (exponent : Int) : Nat × Int :=
  ((List.range 17).findSome? fun count => withDigits? significand exponent (count + 1)).getD (0, 0)

/-- A decimal without zeros at its end. -/
def withoutZeros : Nat → Nat × Int → Nat × Int
  | 0, decimal => decimal
  | fuel + 1, (digits, exponent) =>
    if digits % 10 == 0 then withoutZeros fuel (digits / 10, exponent + 1) else (digits, exponent)

/-- How decimals are laid out: positional notation up to a number of places on either side of the
point, a fraction always written, and exponents of two digits or more with their sign. -/
structure Layout where
  leastPoint : Int
  greatestPoint : Int
  exponentMark : Char
  deriving Repr

/-- The layout of all numbers this program writes. -/
def Layout.standard : Layout := ⟨-3, 16, 'e'⟩

/-- The digits with a point after the first one and an exponent. -/
def Layout.scientific (layout : Layout) (digits : List Char) (exponent : Int) : List Char :=
  let power := (Nat.toDigits 10 exponent.natAbs)
  let power := List.replicate (2 - power.length) '0' ++ power
  let head := match digits with
    | [] => []
    | [digit] => [digit]
    | digit :: more => digit :: '.' :: more
  head ++ layout.exponentMark :: (if exponent < 0 then '-' else '+') :: power

/-- The digits with their decimal point in its place, zeros filled in. -/
def Layout.positional (digits : List Char) (point : Int) : List Char :=
  if point ≤ 0 then "0.".toList ++ List.replicate point.natAbs '0' ++ digits
  else
    let whole := digits.take point.toNat
    let part := digits.drop point.toNat
    whole ++ List.replicate (point.toNat - whole.length) '0' ++ '.' ::
      (if part.isEmpty then ['0'] else part)

/-- The text of a positive finite number. -/
def Layout.text (layout : Layout) (significand : Nat) (exponent : Int) : List Char :=
  let (number, last) := withoutZeros 17 (shortest significand exponent)
  let digits := Nat.toDigits 10 number
  let point := last + digits.length
  if layout.leastPoint ≤ point && point ≤ layout.greatestPoint then positional digits point
  else layout.scientific digits (point - 1)

/-- The shortest text that reads back as the number. -/
def text : Binary64 → String
  | .nan => "nan"
  | .infinite negative => if negative then "-inf" else "inf"
  | .finite negative significand exponent =>
    let magnitude := if significand == 0 then "0.0".toList
      else Layout.standard.text significand exponent
    String.ofList (if negative then '-' :: magnitude else magnitude)

example : (ofDecimal false 1 (-1)).text = "0.1" := by decide +kernel

example : (ofDecimal true 15 15).text = "-1.5e+16" := by decide +kernel

example : (ofDecimal false 5 (-324)).text = "5e-324" := by decide +kernel

end Baseline.Binary64
