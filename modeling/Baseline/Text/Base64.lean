/-!
# Base 64

Four characters of an alphabet of 64 stand for three bytes, and equals signs fill up the last group.
Characters outside the alphabet are passed over, and whatever follows a complete padding.
-/

namespace Baseline.Text.Base64

/-- The value of a character of the alphabet. -/
def value? (c : Char) : Option Nat :=
  if 'A' ≤ c && c ≤ 'Z' then some (c.toNat - 'A'.toNat)
  else if 'a' ≤ c && c ≤ 'z' then some (c.toNat - 'a'.toNat + 26)
  else if '0' ≤ c && c ≤ '9' then some (c.toNat - '0'.toNat + 52)
  else if c == '+' then some 62
  else if c == '/' then some 63
  else none

/-- Why a text stands for no bytes. -/
inductive Fault where
  /-- The padding of the last group is missing. -/
  | padding
  /-- The last group is a single character; the count is of all characters of the alphabet. -/
  | single (count : Nat)
  deriving DecidableEq, Repr

/-- The wording of a fault. -/
def Fault.message : Fault → String
  | .padding => "Incorrect padding"
  | .single count =>
    s!"Invalid base64-encoded string: number of data characters ({count}) cannot be 1 more " ++
      "than a multiple of 4"

/-- The values of the characters up to a complete padding, and whether there is one; `count` are the
values so far and `pads` the equals signs since the last of them. -/
def valuesFrom (count pads : Nat) : List Char → List Nat × Bool
  | [] => ([], false)
  | c :: rest =>
    if c == '=' then
      let inGroup := count % 4
      if 2 ≤ inGroup && 4 ≤ inGroup + pads + 1 then ([], true)
      else valuesFrom count (if 2 ≤ inGroup then pads + 1 else pads) rest
    else
      match value? c with
      | none => valuesFrom count pads rest
      | some value =>
        let (values, padded) := valuesFrom (count + 1) 0 rest
        (value :: values, padded)

/-- The bytes of groups of four values; the last group may be shorter. -/
def bytesOf : List Nat → List UInt8
  | a :: b :: c :: d :: rest =>
    UInt8.ofNat (a * 4 + b / 16) :: UInt8.ofNat (b % 16 * 16 + c / 4) ::
      UInt8.ofNat (c % 4 * 64 + d) :: bytesOf rest
  | [a, b, c] => [UInt8.ofNat (a * 4 + b / 16), UInt8.ofNat (b % 16 * 16 + c / 4)]
  | [a, b] => [UInt8.ofNat (a * 4 + b / 16)]
  | _ => []

/-- The bytes that a text stands for. -/
def decode (cs : List Char) : Except Fault (List UInt8) :=
  let (values, padded) := valuesFrom 0 0 cs
  if padded || values.length % 4 == 0 then .ok (bytesOf values)
  else if values.length % 4 == 1 then .error (.single values.length)
  else .error .padding

end Baseline.Text.Base64
