import Baseline.Number.Binary64
import Baseline.Text.Blank
import Baseline.Text.Property.DecimalDigit
import Baseline.Text.Quoted

/-!
# Numbers read from texts

An integer is an optional sign and digits, a floating-point number has a point or an exponent too.
Single underscores may stand between digits, blanks around the number, and the decimal digits of
every script count as digits. Long decimal integers are refused.
-/

namespace Baseline.Number

open Text

/-- The most digits that a decimal integer may have. -/
def digitLimit : Nat := 4300

/-- Why a text is no number. -/
inductive ReadError where
  | invalidInteger (base : Nat) (text : String)
  | tooManyDigits (count : Nat)
  | invalidFloat (text : String)
  deriving DecidableEq, Repr

/-- The wording of an error. -/
def ReadError.message : ReadError → String
  | .invalidInteger base text =>
    s!"invalid literal for int() with base {base}: " ++ quoted text
  | .tooManyDigits count =>
    s!"Exceeds the limit ({digitLimit} digits) for integer string conversion: value has {count} " ++
      "digits; use sys.set_int_max_str_digits() to increase the limit"
  | .invalidFloat text => "could not convert string to float: " ++ quoted text

/-- Whether an integer has few enough digits to be shown. -/
def isShowable (n : Int) : Bool := n.natAbs < tenTo digitLimit

/-- The text of an integer, unless it has too many digits. -/
def showInteger? (n : Int) : Option String :=
  if isShowable n then some (toString n) else none

/-- The wording of the refusal to show an integer. -/
def unshowableMessage : String :=
  s!"Exceeds the limit ({digitLimit} digits) for integer string conversion; use " ++
    "sys.set_int_max_str_digits() to increase the limit"

/-- The text in ASCII as far as blanks and decimal digits go; other characters cannot be part of a
number and become question marks. -/
def plain (cs : List Char) : List Char :=
  cs.map fun c =>
    if c.toNat < 0x7f then c
    else if isBlank c then ' '
    else match Property.digitValue? c with
      | some value => Char.ofNat (0x30 + value)
      | none => '?'

/-- The blanks that may stand around a number. -/
def isSpace (c : Char) : Bool :=
  c == ' ' || (0x09 ≤ c.toNat && c.toNat ≤ 0x0d)

/-- The sign at the start of a text, negative or not, and what follows it. -/
def signed : List Char → Bool × List Char
  | '-' :: rest => (true, rest)
  | '+' :: rest => (false, rest)
  | cs => (false, cs)

/-- The value of a character as a digit, letters standing for ten and more. -/
def digit? (base : Nat) (c : Char) : Option Nat :=
  let value :=
    if c.isDigit then c.toNat - 0x30
    else if c.isAlpha then c.toLower.toNat - 0x57
    else base
  if value < base then some value else none

/-- The digits at the start of a text and what follows them; single underscores between digits are
passed over. `none` when an underscore does not stand between two digits. -/
def digitRun (base : Nat) (afterDigit : Bool) : List Char → Option (List Nat × List Char)
  | [] => some ([], [])
  | '_' :: c :: rest =>
    if afterDigit && (digit? base c).isSome then digitRun base false (c :: rest) else none
  | ['_'] => none
  | c :: rest =>
    match digit? base c with
    | none => some ([], c :: rest)
    | some value => (digitRun base true rest).map fun (values, after) => (value :: values, after)

/-- The number that digits spell. -/
def ofDigits (base : Nat) (digits : List Nat) : Nat :=
  digits.foldl (fun n digit => n * base + digit) 0

/-- The marks that may stand before digits of a base, in either case. -/
def basePrefixes : Nat → List Char
  | 2 => ['b', 'B']
  | 8 => ['o', 'O']
  | 16 => ['x', 'X']
  | _ => []

/-- The text without the mark of its base and an underscore after the mark. -/
def withoutBaseMark (base : Nat) : List Char → List Char
  | '0' :: mark :: '_' :: rest =>
    if (basePrefixes base).contains mark then rest else '0' :: mark :: '_' :: rest
  | '0' :: mark :: rest => if (basePrefixes base).contains mark then rest else '0' :: mark :: rest
  | cs => cs

/-- The integer that a text spells in a base. -/
def readInteger (base : Nat) (text : String) : Except ReadError Int :=
  let invalid := .error (.invalidInteger base text)
  let (negative, cs) := signed ((plain text.toList).dropWhile isSpace)
  match digitRun base false (withoutBaseMark base cs) with
  | none => invalid
  | some (digits, after) =>
    if digits.isEmpty then invalid
    else if base == 10 && digits.length > digitLimit then .error (.tooManyDigits digits.length)
    else if (after.dropWhile isSpace).isEmpty then
      let n : Int := ofDigits base digits
      .ok (if negative then -n else n)
    else invalid

/-- The text without the single underscores that stand between two digits. -/
def withoutUnderscores (afterDigit : Bool) : List Char → Option (List Char)
  | [] => some []
  | '_' :: c :: rest =>
    if afterDigit && c.isDigit then withoutUnderscores false (c :: rest) else none
  | ['_'] => none
  | c :: rest => (withoutUnderscores c.isDigit rest).map (c :: ·)

/-- Infinity and not-a-number by their names, in lower case. -/
def special? (negative : Bool) (cs : List Char) : Option Binary64 :=
  if cs == "inf".toList || cs == "infinity".toList then some (.infinite negative)
  else if cs == "nan".toList then some .nan
  else none

/-- A floating-point number of ASCII digits, with a point, an exponent or both. -/
def readDecimal? (negative : Bool) (cs : List Char) : Option Binary64 :=
  let whole := cs.takeWhile Char.isDigit
  let rest := cs.dropWhile Char.isDigit
  let (part, rest) := match rest with
    | '.' :: rest => (rest.takeWhile Char.isDigit, rest.dropWhile Char.isDigit)
    | rest => ([], rest)
  let digits := (whole ++ part).map fun c => c.toNat - 0x30
  let number (exponent : Int) : Option Binary64 :=
    if digits.isEmpty then none
    else some (.ofDecimal negative (ofDigits 10 digits) (exponent - part.length))
  match rest with
  | [] => number 0
  | mark :: rest =>
    let (below, power) := signed rest
    if (mark == 'e' || mark == 'E') && !power.isEmpty && power.all Char.isDigit then
      let n : Int := ofDigits 10 (power.map fun c => c.toNat - 0x30)
      number (if below then -n else n)
    else none

/-- The floating-point number that a text spells. -/
def readFloat (text : String) : Except ReadError Binary64 :=
  let cs := (plain text.toList).dropWhile isSpace
  let cs := (cs.reverse.dropWhile isSpace).reverse
  match withoutUnderscores false cs with
  | none => .error (.invalidFloat text)
  | some cs =>
    let (negative, cs) := signed cs
    match (special? negative (cs.map Char.toLower)).or (readDecimal? negative cs) with
    | some value => .ok value
    | none => .error (.invalidFloat text)

end Baseline.Number
