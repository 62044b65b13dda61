import Baseline.Number.Reading
import Baseline.Payload.Basic

/-!
# Reading JSON

A JSON text denotes one value. Beyond the standard, numbers may be `NaN`, `Infinity` and
`-Infinity`, and a key may stand twice in an object: it keeps its first place and takes its last
value. An error tells what was expected and where. Lists and objects stand in one another only so
deep.
-/

namespace Baseline.Json

/-- What is wrong with a text that is not JSON. -/
inductive Problem where
  | byteOrderMark
  | value
  | propertyName
  | colon
  | comma
  | unterminatedText
  | controlCharacter
  | badEscape
  | badUnicodeEscape
  | extraData
  deriving DecidableEq, Repr

/-- The wording of a problem. -/
def Problem.message : Problem → String
  | .byteOrderMark => "Unexpected UTF-8 BOM (decode using utf-8-sig)"
  | .value => "Expecting value"
  | .propertyName => "Expecting property name enclosed in double quotes"
  | .colon => "Expecting ':' delimiter"
  | .comma => "Expecting ',' delimiter"
  | .unterminatedText => "Unterminated string starting at"
  | .controlCharacter => "Invalid control character at"
  | .badEscape => "Invalid \\escape"
  | .badUnicodeEscape => "Invalid \\uXXXX escape"
  | .extraData => "Extra data"

/-- What values stand in. -/
inductive Container where
  | array
  | object
  deriving DecidableEq, Repr

/-- The name of a container. -/
def Container.name : Container → String
  | .array => "array"
  | .object => "object"

/-- Why a text has no value: it is not JSON, it holds a number that cannot be read, or a container
in it stands too deep. -/
inductive Error where
  | malformed (problem : Problem) (position : Nat)
  | number (error : Number.ReadError)
  | tooDeep (container : Container)
  deriving DecidableEq, Repr

/-- The most containers that stand in one another. -/
def depthLimit : Nat := 990

/-- The part of a text that is still to be read, and the number of characters before it. -/
structure Cursor where
  rest : List Char
  position : Nat

/-- What reading gives: a value and where it ends. -/
abbrev Result (α : Type) := Except Error (α × Cursor)

/-- The white space of JSON. -/
def isSpace (c : Char) : Bool :=
  c == ' ' || c == '\t' || c == '\n' || c == '\r'

/-- The cursor with one character read. -/
def Cursor.next (here : Cursor) : Cursor := ⟨here.rest.drop 1, here.position + 1⟩

/-- The cursor after some characters. -/
def Cursor.advance (here : Cursor) (count : Nat) : Cursor :=
  ⟨here.rest.drop count, here.position + count⟩

/-- The cursor after the white space at it. -/
def Cursor.skipSpace (here : Cursor) : Cursor :=
  let spaces := here.rest.takeWhile isSpace
  ⟨here.rest.dropWhile isSpace, here.position + spaces.length⟩

/-- The error of a problem at a cursor. -/
def Cursor.fail {α : Type} (here : Cursor) (problem : Problem) : Except Error α :=
  .error (.malformed problem here.position)

/-- The number that four hexadecimal digits spell. -/
def hexQuad? (cs : List Char) : Option Nat :=
  let digits := (cs.take 4).map (Number.digit? 16)
  if digits.length == 4 then (digits.mapM id).map (Number.ofDigits 16) else none

/-- The character of an escape of one letter. -/
def simpleEscape? : Char → Option Char
  | '"' => some '"'
  | '\\' => some '\\'
  | '/' => some '/'
  | 'b' => some '\x08'
  | 'f' => some '\x0c'
  | 'n' => some '\n'
  | 'r' => some '\r'
  | 't' => some '\t'
  | _ => none

/-- Whether a number is the first or the second half of a pair that spells one character. -/
def isHighHalf (n : Nat) : Bool := 0xd800 ≤ n && n ≤ 0xdbff

/-- Whether a number is the second half of a pair that spells one character. -/
def isLowHalf (n : Nat) : Bool := 0xdc00 ≤ n && n ≤ 0xdfff

/-- The character of a number escape whose digits start at `digits`, and how many characters of the
text it takes after its letter. Half of a pair without the other one, which a reader of code units
would keep as it is, is no character; it is read as U+FFFD. -/
def unicodeEscape (digits : Cursor) : Except Error (Char × Nat) :=
  match digits.rest[4]?, hexQuad? digits.rest with
  | none, _ => .error (.malformed .badUnicodeEscape (digits.position - 1))
  | some _, none => .error (.malformed .badUnicodeEscape (digits.position - 1))
  | some _, some high =>
    let alone := .ok (Char.ofNat (if high < 0xd800 || 0xdfff < high then high else 0xfffd), 4)
    match isHighHalf high, digits.rest.drop 4 with
    | true, '\\' :: 'u' :: low =>
      if low[4]?.isSome then
        match hexQuad? low with
        | none => .error (.malformed .badUnicodeEscape (digits.position + 5))
        | some low =>
          if isLowHalf low then
            .ok (Char.ofNat (0x10000 + (high - 0xd800) * 0x400 + (low - 0xdc00)), 10)
          else alone
      else alone
    | _, _ => alone

/-- Reads a text after its opening quote, which stands at `start`; `done` are its characters so far,
the last one first, and `skip` characters have been read as part of an escape. -/
def readText (start skip position : Nat) (done : List Char) : List Char → Result String
  | [] => .error (.malformed .unterminatedText start)
  | c :: rest =>
    match skip with
    | skip + 1 => readText start skip (position + 1) done rest
    | 0 =>
      if c == '"' then .ok (String.ofList done.reverse, ⟨rest, position + 1⟩)
      else if c.toNat ≤ 0x1f then .error (.malformed .controlCharacter position)
      else if c != '\\' then readText start 0 (position + 1) (c :: done) rest
      else match rest with
        | [] => .error (.malformed .unterminatedText start)
        | 'u' :: digits =>
          match unicodeEscape ⟨digits, position + 2⟩ with
          | .error e => .error e
          | .ok (c, count) => readText start (count + 1) (position + 1) (c :: done) rest
        | letter :: _ =>
          match simpleEscape? letter with
          | none => .error (.malformed .badEscape position)
          | some c => readText start 1 (position + 1) (c :: done) rest

/-- The minus sign at the start of a text, and what follows it. -/
def minusPart : List Char → List Char × List Char
  | '-' :: rest => (['-'], rest)
  | cs => ([], cs)

/-- The digits of a whole number at the start of a text; a zero stands alone. -/
def wholePart : List Char → List Char
  | '0' :: _ => ['0']
  | cs => cs.takeWhile Char.isDigit

/-- A point and the digits after it at the start of a text. -/
def fractionPart : List Char → List Char
  | '.' :: rest =>
    let digits := rest.takeWhile Char.isDigit
    if digits.isEmpty then [] else '.' :: digits
  | _ => []

/-- The sign at the start of a text, and what follows it. -/
def signPart : List Char → List Char × List Char
  | '+' :: rest => (['+'], rest)
  | '-' :: rest => (['-'], rest)
  | cs => ([], cs)

/-- The mark of an exponent, its sign and its digits at the start of a text. -/
def exponentPart : List Char → List Char
  | mark :: rest =>
    if mark == 'e' || mark == 'E' then
      let (sign, rest) := signPart rest
      let digits := rest.takeWhile Char.isDigit
      if digits.isEmpty then [] else mark :: sign ++ digits
    else []
  | [] => []

/-- The characters of a number at the start of a text, whether it has a fraction or an exponent, if
there is a number. -/
def numberPart? (cs : List Char) : Option (List Char × Bool) :=
  let (sign, digits) := minusPart cs
  let whole := wholePart digits
  if whole.isEmpty then none
  else
    let rest := digits.drop whole.length
    let fraction := fractionPart rest
    let exponent := exponentPart (rest.drop fraction.length)
    some (sign ++ whole ++ fraction ++ exponent, !(fraction.isEmpty && exponent.isEmpty))

/-- Reads a number. -/
def readNumber (here : Cursor) : Result Payload :=
  match numberPart? here.rest with
  | none => here.fail .value
  | some (digits, isFloat) =>
    let text := String.ofList digits
    let value := if isFloat then (Number.readFloat text).map .float
      else (Number.readInteger 10 text).map .int
    match value with
    | .error e => .error (.number e)
    | .ok value => .ok (value, here.advance digits.length)

/-- The values that are spelled by a word. -/
def words : List (List Char × Payload) :=
  [("null".toList, .null), ("true".toList, .bool true), ("false".toList, .bool false),
    ("NaN".toList, .float .nan), ("Infinity".toList, .float (.infinite false)),
    ("-Infinity".toList, .float (.infinite true))]

/-- Reads a value that holds no other value. -/
def readScalar (here : Cursor) : Result Payload :=
  match here.rest with
  | '"' :: rest =>
    match readText here.position 0 (here.position + 1) [] rest with
    | .error e => .error e
    | .ok (s, after) => .ok (.text s, after)
  | rest =>
    match words.find? fun (word, _) => word.isPrefixOf rest with
    | some (word, value) => .ok (value, here.advance word.length)
    | none => readNumber here

mutual

/-- Reads a value in which containers may stand `depth` deep; `fuel` bounds the number of values and
parts of them. -/
def readValue : Nat → Nat → Cursor → Result Payload
  | 0, _, here => here.fail .value
  | fuel + 1, depth, here =>
    match here.rest, depth with
    | '[' :: _, 0 => .error (.tooDeep .array)
    | '\x7b' :: _, 0 => .error (.tooDeep .object)
    | '[' :: _, depth + 1 =>
      let inside := here.next.skipSpace
      if inside.rest.head? == some ']' then .ok (.list [], inside.next)
      else readItems fuel depth [] inside
    | '\x7b' :: _, depth + 1 =>
      let inside := here.next.skipSpace
      if inside.rest.head? == some '\x7d' then .ok (.map [], inside.next)
      else readMembers fuel depth [] inside
    | _, _ => readScalar here

/-- Reads the items of a list after those in `done`, which stand in reverse. -/
def readItems : Nat → Nat → List Payload → Cursor → Result Payload
  | 0, _, _, here => here.fail .value
  | fuel + 1, depth, done, here =>
    match readValue fuel depth here with
    | .error e => .error e
    | .ok (item, after) =>
      let after := after.skipSpace
      match after.rest with
      | ']' :: _ => .ok (.list (item :: done).reverse, after.next)
      | ',' :: _ => readItems fuel depth (item :: done) after.next.skipSpace
      | _ => after.fail .comma

/-- Reads the members of an object after those in `done`, which stand in reverse. -/
def readMembers : Nat → Nat → List (String × Payload) → Cursor → Result Payload
  | 0, _, _, here => here.fail .value
  | fuel + 1, depth, done, here =>
    match here.rest with
    | '"' :: rest =>
      match readText here.position 0 (here.position + 1) [] rest with
      | .error e => .error e
      | .ok (key, after) =>
        let after := after.skipSpace
        if after.rest.head? == some ':' then
          match readValue fuel depth after.next.skipSpace with
          | .error e => .error e
          | .ok (value, after) =>
            let after := after.skipSpace
            match after.rest with
            | '\x7d' :: _ => .ok (.ofEntries ((key, value) :: done).reverse, after.next)
            | ',' :: _ => readMembers fuel depth ((key, value) :: done) after.next.skipSpace
            | _ => after.fail .comma
        else after.fail .colon
    | _ => here.fail .propertyName

end

/-- The value that a text denotes. -/
def read (s : String) : Except Error Payload :=
  let start : Cursor := ⟨s.toList, 0⟩
  if start.rest.head? == some '\ufeff' then start.fail .byteOrderMark
  else
    match readValue (2 * start.rest.length + 1) depthLimit start.skipSpace with
    | .error e => .error e
    | .ok (value, after) =>
      let after := after.skipSpace
      if after.rest.isEmpty then .ok value else after.fail .extraData

/-- A problem with its line, column and position in the text, lines and columns counted from one. -/
def describe (problem : Problem) (position : Nat) (s : String) : String :=
  let before := s.toList.take position
  let line := before.count '\n' + 1
  let column := (before.reverse.takeWhile (· != '\n')).length + 1
  s!"{problem.message}: line {line} column {column} (char {position})"

/-- The wording of an error in a text. -/
def Error.message (s : String) : Error → String
  | .malformed problem position => describe problem position s
  | .number error => error.message
  | .tooDeep container =>
    "maximum recursion depth exceeded while decoding a JSON " ++ container.name ++
      " from a unicode string"

end Baseline.Json
