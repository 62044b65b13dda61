import Baseline.Number.Power

/-!
# Binary floating-point numbers of 64 bits

A finite number is a significand of at most 53 bits times a power of two. Every operation rounds the
exact result to the nearest such number, a result half way between two of them to the one with the
even significand. A significand has 53 bits unless the exponent is the least one, so that equal
numbers have equal representations.
-/

namespace Baseline

/-- A floating-point number: not a number, infinite, or a significand times a power of two. -/
inductive Binary64 where
  | nan
  | infinite (negative : Bool)
  | finite (negative : Bool) (significand : Nat) (exponent : Int)
  deriving DecidableEq, Repr

namespace Binary64

open Number (twoTo tenTo)

/-- The number of bits of a significand. -/
def precision : Nat := 53

/-- The least exponent of a finite number. -/
def leastExponent : Int := -1074

/-- The greatest exponent of a finite number. -/
def greatestExponent : Int := 971

/-- Zero with a sign. -/
def zero (negative : Bool) : Binary64 := .finite negative 0 leastExponent

instance : Inhabited Binary64 := ⟨zero false⟩

/-- The integer nearest to `num / den`, the even one of two. -/
def roundedQuotient (num den : Nat) : Nat :=
  let quotient := num / den
  let remainder := num % den
  if 2 * remainder > den || (2 * remainder == den && quotient % 2 == 1) then quotient + 1
  else quotient

/-- `num / den` divided by a power of two, as a fraction. -/
def scaled (num den : Nat) (exponent : Int) : Nat × Nat :=
  if exponent < 0 then (num * twoTo exponent.natAbs, den) else (num, den * twoTo exponent.toNat)

/-- The exponent at which `num / den` has a significand of full precision, or the least one. -/
def exponentFor (num den : Nat) : Int :=
  let guess : Int := (num.log2 : Int) - den.log2 - precision
  let (n, d) := scaled num den guess
  let exponent := if n / d < twoTo precision then guess else guess + 1
  max exponent leastExponent

/-- The number nearest to `num / den`, which is not negative, with a sign. -/
def ofRatio (negative : Bool) (num den : Nat) : Binary64 :=
  if num == 0 then zero negative
  else
    let exponent := exponentFor num den
    let (n, d) := scaled num den exponent
    let significand := roundedQuotient n d
    let (significand, exponent) :=
      if significand == twoTo precision then (twoTo (precision - 1), exponent + 1)
      else (significand, exponent)
    if exponent > greatestExponent then .infinite negative
    else .finite negative significand exponent

/-- The number nearest to an integer. -/
def ofInt (n : Int) : Binary64 := ofRatio (n < 0) n.natAbs 1

/-- The number nearest to `digits * 10 ^ exponent`. Exponents far out of range are not computed. -/
def ofDecimal (negative : Bool) (digits : Nat) (exponent : Int) : Binary64 :=
  let magnitude : Int := (digits.log2 : Int) * 3 / 10 + exponent
  if digits == 0 then zero negative
  else if magnitude > 330 then .infinite negative
  else if (digits.log2 + 1 : Int) * 31 / 100 + exponent < -340 then zero negative
  else if exponent < 0 then ofRatio negative digits (tenTo exponent.natAbs)
  else ofRatio negative (digits * tenTo exponent.toNat) 1

/-- Whether the number is finite. -/
def isFinite : Binary64 → Bool
  | .finite .. => true
  | _ => false

/-- Whether the number is a zero of either sign. -/
def isZero : Binary64 → Bool
  | .finite _ 0 _ => true
  | _ => false

/-- The number with its sign changed. -/
def neg : Binary64 → Binary64
  | .nan => .nan
  | .infinite negative => .infinite !negative
  | .finite negative significand exponent => .finite (!negative) significand exponent

instance : Neg Binary64 := ⟨neg⟩

/-- A finite number as an integer times a power of two. -/
def signed (negative : Bool) (significand : Nat) : Int :=
  if negative then -(significand : Int) else significand

/-- An integer times a power of two, rounded; a zero takes the given sign. -/
def ofScaled (zeroNegative : Bool) (n : Int) (exponent : Int) : Binary64 :=
  if n == 0 then zero zeroNegative
  else if exponent < 0 then ofRatio (n < 0) n.natAbs (twoTo exponent.natAbs)
  else ofRatio (n < 0) (n.natAbs * twoTo exponent.toNat) 1

/-- The sum, rounded. -/
def add : Binary64 → Binary64 → Binary64
  | .nan, _ => .nan
  | _, .nan => .nan
  | .infinite a, .infinite b => if a == b then .infinite a else .nan
  | .infinite a, _ => .infinite a
  | _, .infinite b => .infinite b
  | .finite a m e, .finite b n f =>
    let least := min e f
    let sum := signed a m * twoTo (e - least).toNat + signed b n * twoTo (f - least).toNat
    ofScaled (a && b) sum least

instance : Add Binary64 := ⟨add⟩

instance : Sub Binary64 := ⟨fun x y => add x (neg y)⟩

/-- The product, rounded. -/
def mul : Binary64 → Binary64 → Binary64
  | .nan, _ => .nan
  | _, .nan => .nan
  | .infinite a, .infinite b => .infinite (a != b)
  | .infinite a, .finite b n _ => if n == 0 then .nan else .infinite (a != b)
  | .finite a m _, .infinite b => if m == 0 then .nan else .infinite (a != b)
  | .finite a m e, .finite b n f => ofScaled (a != b) (signed (a != b) (m * n)) (e + f)

instance : Mul Binary64 := ⟨mul⟩

/-- How an integer compares with a finite number, exactly. -/
def compareInt (n : Int) (negative : Bool) (significand : Nat) (exponent : Int) : Ordering :=
  let m := signed negative significand
  if exponent < 0 then compare (n * twoTo exponent.natAbs) m
  else compare n (m * twoTo exponent.toNat)

/-- How two numbers compare; `none` when one of them is not a number. -/
def compare? : Binary64 → Binary64 → Option Ordering
  | .nan, _ => none
  | _, .nan => none
  | .infinite a, .infinite b => some (if a == b then .eq else if a then .lt else .gt)
  | .infinite a, _ => some (if a then .lt else .gt)
  | _, .infinite b => some (if b then .gt else .lt)
  | .finite a m e, .finite b n f =>
    let least := min e f
    some (compare (signed a m * twoTo (e - least).toNat) (signed b n * twoTo (f - least).toNat))

/-- Whether the first number is less than the second one. -/
def lt (x y : Binary64) : Bool := compare? x y == some .lt

/-- Why a number has no integer part. -/
inductive NotIntegral where
  | infinity
  | nan
  deriving DecidableEq, Repr

/-- The number without its fraction. -/
def truncate : Binary64 → Except NotIntegral Int
  | .nan => .error .nan
  | .infinite _ => .error .infinity
  | .finite negative significand exponent =>
    .ok (if exponent < 0 then signed negative (significand / twoTo exponent.natAbs)
      else signed negative (significand * twoTo exponent.toNat))

end Binary64

end Baseline
