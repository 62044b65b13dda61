import Baseline.Number.Reading
import Baseline.Text.Base64
import Baseline.Text.Lowercase
import Baseline.Text.Pieces
import Baseline.Yaml.Error
import Baseline.Yaml.Moment

/-!
# Values of scalars

The value of a scalar is read from its text by the rules of its tag, whether the tag was found out
from the text or written before it. A text that does not follow them has no value.
-/

namespace Baseline.Yaml

open Number (readInteger readFloat ReadError)

/-- Why a scalar has no value. -/
inductive ScalarError where
  /-- There is no character where a number should start. -/
  | emptyNumber
  | number (error : ReadError)
  /-- A word that means neither yes nor no. -/
  | notBool (word : String)
  /-- A text that is no date. -/
  | notTimestamp
  /-- A collection in place of the text of a date. -/
  | timestampOfMapping
  | calendar (error : CalendarError)
  /-- A number in base sixty with too many places. -/
  | tooLarge
  deriving DecidableEq, Repr

/-- The wording of an error. -/
def ScalarError.message : ScalarError → String
  | .emptyNumber => "string index out of range"
  | .number error => error.message
  | .notBool word => Text.quoted word
  | .notTimestamp => "'NoneType' object has no attribute 'groupdict'"
  | .timestampOfMapping => "expected string or bytes-like object, got 'list'"
  | .calendar error => error.message
  | .tooLarge => "int too large to convert to float"

namespace Scalar

/-- A number read with its errors as those of a scalar. -/
def ofNumber {α : Type} : Except ReadError α → Except ScalarError α :=
  Except.mapError .number

/-- The text without underscores, and whether a minus sign stood before what is left. -/
def signAndDigits (s : String) : Except ScalarError (Bool × List Char) :=
  match s.toList.filter (· != '_') with
  | [] => .error .emptyNumber
  | c :: rest => .ok (c == '-', if c == '-' || c == '+' then rest else c :: rest)

/-- The pieces of a text between colons. -/
def sixties (cs : List Char) : List String := (Text.pieces ':' cs).map String.ofList

/-- The integer of a text: binary, octal and hexadecimal by what it starts with, in base sixty when
it has colons, else decimal. -/
def readInt (s : String) : Except ScalarError Int := do
  let (negative, digits) ← signAndDigits s
  let magnitude ← match digits with
    | [] => .error .emptyNumber
    | ['0'] => pure 0
    | '0' :: 'b' :: rest => ofNumber (readInteger 2 (String.ofList rest))
    | '0' :: 'x' :: rest => ofNumber (readInteger 16 (String.ofList rest))
    | '0' :: _ => ofNumber (readInteger 8 (String.ofList digits))
    | digits =>
      if digits.contains ':' then do
        let places ← (sixties digits).mapM fun piece => ofNumber (readInteger 10 piece)
        pure (places.foldl (fun n place => n * 60 + place) 0)
      else ofNumber (readInteger 10 (String.ofList digits))
  return if negative then -magnitude else magnitude

/-- The sum of places in base sixty, the last place first, each place rounded. -/
def sumOfSixties (sum : Binary64) (base : Int) : List Binary64 → Except ScalarError Binary64
  | [] => .ok sum
  | place :: rest =>
    let factor := Binary64.ofInt base
    if factor.isFinite then sumOfSixties (sum + place * factor) (base * 60) rest
    else .error .tooLarge

/-- The floating-point number of a text. -/
def readFloatingPoint (s : String) : Except ScalarError Binary64 := do
  let (negative, digits) ← signAndDigits (Text.lowered s)
  if digits == ".nan".toList then return .nan
  else
    let magnitude ←
      if digits == ".inf".toList then pure (.infinite false)
      else if digits.contains ':' then do
        let places ← (sixties digits).mapM fun piece => ofNumber (readFloat piece)
        sumOfSixties (.zero false) 1 places.reverse
      else ofNumber (readFloat (String.ofList digits))
    return if negative then -magnitude else magnitude

/-- The truth value of a word. -/
def readBool (s : String) : Except ScalarError Bool :=
  let word := Text.lowered s
  match Tag.boolWords.lookup word with
  | some value => .ok value
  | none => .error (.notBool word)

/-- The date or time of a text. -/
def readMoment (s : String) : Except ScalarError Moment :=
  match Tag.readTimestamp? (Tag.withoutFinalFeed s.toList) with
  | none => .error .notTimestamp
  | some parts => (Moment.ofParts parts).mapError .calendar

/-- The bytes of a text in base 64. -/
def readBinary (s : String) (mark : Mark) : Except FormError (List UInt8) :=
  if s.toList.all fun c => c.toNat < 0x80 then
    match Text.Base64.decode s.toList with
    | .ok bytes => .ok bytes
    | .error fault => .error (.marked (.plain (.base64 fault.message) mark))
  else .error (.marked (.plain (.notAscii s) mark))

end Scalar

end Baseline.Yaml
