/-!
# Tags of plain scalars

The kind of a plain scalar is found out from its text. The kinds are tried in a fixed order, and a
text of no kind is a text. A line feed at the end of a text does not keep it from being of a kind.
-/

namespace Baseline.Yaml.Tag

/-- What the tags of the standard kinds start with. -/
def stem : String := "tag:yaml.org,2002:"

/-- The tag of nothing. -/
def null : String := stem ++ "null"

/-- The tag of truth values. -/
def bool : String := stem ++ "bool"

/-- The tag of integers. -/
def int : String := stem ++ "int"

/-- The tag of floating-point numbers. -/
def float : String := stem ++ "float"

/-- The tag of bytes. -/
def binary : String := stem ++ "binary"

/-- The tag of dates and times. -/
def timestamp : String := stem ++ "timestamp"

/-- The tag of lists of pairs with an order. -/
def orderedMap : String := stem ++ "omap"

/-- The tag of lists of pairs. -/
def pairs : String := stem ++ "pairs"

/-- The tag of sets. -/
def set : String := stem ++ "set"

/-- The tag of texts. -/
def text : String := stem ++ "str"

/-- The tag of lists. -/
def sequence : String := stem ++ "seq"

/-- The tag of maps. -/
def mapping : String := stem ++ "map"

/-- The tag of keys that merge other maps. -/
def merge : String := stem ++ "merge"

/-- The tag of keys whose value stands for the whole map. -/
def value : String := stem ++ "value"

/-- The tag of the indicators of tags, anchors and aliases. -/
def indicator : String := stem ++ "yaml"

/-- The words that mean yes or no. -/
def boolWords : List (String × Bool) :=
  [("yes", true), ("no", false), ("true", true), ("false", false), ("on", true), ("off", false)]

/-- The spellings of a word: in lower case, with a capital, or in capitals. -/
def spellings (word : String) : List String := [word, word.capitalize, word.toUpper]

/-- Whether a text is one of the spellings of a word. -/
def spells (word : String) (cs : List Char) : Bool :=
  (spellings word).any fun spelling => spelling.toList == cs

/-- The text without its sign. -/
def unsigned : List Char → List Char
  | '-' :: rest => rest
  | '+' :: rest => rest
  | cs => cs

/-- Whether a character is a decimal digit or an underscore. -/
def isDigitOrUnderscore (c : Char) : Bool := c.isDigit || c == '_'

/-- What follows the digits at the start of a text, underscores included after the first. -/
def afterDigits? : List Char → Option (List Char)
  | c :: rest => if c.isDigit then some (rest.dropWhile isDigitOrUnderscore) else none
  | [] => none

/-- Whether the rest of a text is nothing or an exponent with a sign. -/
def isExponent : List Char → Bool
  | [] => true
  | mark :: sign :: digits =>
    (mark == 'e' || mark == 'E') && (sign == '+' || sign == '-') && !digits.isEmpty &&
      digits.all Char.isDigit
  | _ => false

/-- What follows groups of one or two digits below sixty, each after a colon. -/
def afterSixties : List Char → List Char
  | ':' :: a :: b :: rest =>
    if a.isDigit && a.toNat < '6'.toNat && b.isDigit then afterSixties rest
    else if a.isDigit then afterSixties (b :: rest)
    else ':' :: a :: b :: rest
  | [':', a] => if a.isDigit then [] else [':', a]
  | cs => cs

/-- Whether a text has a group of digits after a colon. -/
def hasSixties : List Char → Bool
  | ':' :: a :: _ => a.isDigit
  | _ => false

/-- Whether a text is a floating-point number in one of the accepted notations. -/
def isFloat (cs : List Char) : Bool :=
  let plain := unsigned cs
  let decimal := match afterDigits? plain with
    | some ('.' :: rest) => isExponent (rest.dropWhile isDigitOrUnderscore)
    | _ => false
  let fraction := match cs with
    | '.' :: rest => ((afterDigits? rest).map isExponent).getD false
    | _ => false
  let sixties := match afterDigits? plain with
    | some rest =>
      hasSixties rest &&
        match afterSixties rest with
        | '.' :: rest => rest.all isDigitOrUnderscore
        | _ => false
    | none => false
  let infinite := match plain with
    | '.' :: rest => ["inf", "Inf", "INF"].any fun word => word.toList == rest
    | _ => false
  let nan := [".nan", ".NaN", ".NAN"].any fun word => word.toList == cs
  decimal || fraction || sixties || infinite || nan

/-- Whether a text is an integer in one of the accepted notations. -/
def isInteger (cs : List Char) : Bool :=
  match unsigned cs with
  | ['0'] => true
  | '0' :: 'b' :: digits =>
    !digits.isEmpty && digits.all fun c => c == '0' || c == '1' || c == '_'
  | '0' :: 'x' :: digits =>
    let isHex (c : Char) : Bool :=
      c.isDigit || c == '_' || ('a' ≤ c && c ≤ 'f') || ('A' ≤ c && c ≤ 'F')
    !digits.isEmpty && digits.all isHex
  | '0' :: digits => !digits.isEmpty && digits.all fun c => ('0' ≤ c && c ≤ '7') || c == '_'
  | c :: rest =>
    c.isDigit &&
      let after := rest.dropWhile isDigitOrUnderscore
      after.isEmpty || (hasSixties after && (afterSixties after).isEmpty)
  | [] => false

/-- A date and time taken apart: year, month and day, and perhaps a time with its fraction and the
offset of its zone, each part as it is written. -/
structure TimestampParts where
  year : List Char
  month : List Char
  day : List Char
  time : Option (List Char × List Char × List Char) := none
  fraction : List Char := []
  zone : List Char := []
  offset : Option (Bool × List Char × List Char) := none

/-- Between `least` and `most` digits at the start of a text, as many as there are, and what follows
them. -/
def digitsUpTo (least most : Nat) (cs : List Char) : Option (List Char × List Char) :=
  let digits := (cs.take most).takeWhile Char.isDigit
  if least ≤ digits.length then some (digits, cs.drop digits.length) else none

/-- What follows a character at the start of a text. -/
def afterCharacter (c : Char) : List Char → Option (List Char)
  | d :: rest => if d == c then some rest else none
  | [] => none

/-- Reads the zone of a time after the blanks before it. -/
def readZone (parts : TimestampParts) : List Char → Option TimestampParts
  | [] => some parts
  | ['Z'] => some { parts with zone := ['Z'] }
  | sign :: rest =>
    if sign == '+' || sign == '-' then do
      let (hours, rest) ← digitsUpTo 1 2 rest
      let offset (minutes : List Char) : TimestampParts :=
        { parts with zone := [sign], offset := some (sign == '-', hours, minutes) }
      match rest with
      | [] => some (offset [])
      | ':' :: rest =>
        let (minutes, rest) ← digitsUpTo 2 2 rest
        if rest.isEmpty then some (offset minutes) else none
      | _ => none
    else none

/-- Reads a time and its zone. -/
def readTime (parts : TimestampParts) (cs : List Char) : Option TimestampParts := do
  let (hour, rest) ← digitsUpTo 1 2 cs
  let rest ← afterCharacter ':' rest
  let (minute, rest) ← digitsUpTo 2 2 rest
  let rest ← afterCharacter ':' rest
  let (second, rest) ← digitsUpTo 2 2 rest
  let (fraction, rest) := match rest with
    | '.' :: rest => (rest.takeWhile Char.isDigit, rest.dropWhile Char.isDigit)
    | rest => ([], rest)
  let parts := { parts with time := some (hour, minute, second), fraction }
  let zone := rest.dropWhile fun c => c == ' ' || c == '\t'
  if zone.isEmpty && !rest.isEmpty then none else readZone parts zone

/-- Reads a date and perhaps a time. -/
def readTimestamp? (cs : List Char) : Option TimestampParts := do
  let (year, rest) ← digitsUpTo 4 4 cs
  let rest ← afterCharacter '-' rest
  let (month, rest) ← digitsUpTo 1 2 rest
  let rest ← afterCharacter '-' rest
  let (day, rest) ← digitsUpTo 1 2 rest
  let parts : TimestampParts := { year, month, day }
  match rest with
  | [] => some parts
  | c :: rest =>
    if c == 'T' || c == 't' then readTime parts rest
    else if c == ' ' || c == '\t' then
      readTime parts (rest.dropWhile fun c => c == ' ' || c == '\t')
    else none

/-- Whether a text is a date, with both digits of its month and day, or a date and time. -/
def isTimestamp (cs : List Char) : Bool :=
  match readTimestamp? cs with
  | none => false
  | some parts => parts.time.isSome || (parts.month.length == 2 && parts.day.length == 2)

/-- The text without a line feed at its end. -/
def withoutFinalFeed (cs : List Char) : List Char :=
  if cs.getLast? == some '\n' then cs.dropLast else cs

/-- The kind of a text, found out from the text alone. -/
def ofPlain (s : String) : String :=
  let cs := withoutFinalFeed s.toList
  if boolWords.any fun (word, _) => spells word cs then bool
  else if isFloat cs then float
  else if isInteger cs then int
  else if cs == "<<".toList then merge
  else if cs == "~".toList || spells "null" cs || s.toList.isEmpty then null
  else if isTimestamp cs then timestamp
  else if cs == "=".toList then value
  else if ["!", "&", "*"].any fun mark => mark.toList == cs then indicator
  else text

end Baseline.Yaml.Tag
