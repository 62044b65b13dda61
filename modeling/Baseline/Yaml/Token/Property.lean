import Baseline.Number.Reading
import Baseline.Yaml.Token.Basic

/-!
# Directives, anchors and tags

The tokens that say something about a document or a node.
-/

namespace Baseline.Yaml

open Number (ofDigits)

/-- The number that ASCII digits spell. -/
def decimal (digits : List Char) : Nat :=
  ofDigits 10 (digits.map fun c => c.toNat - 0x30)

/-- Whether a character is a hexadecimal digit. -/
def isHexDigit (c : Char) : Bool := (Number.digit? 16 c).isSome

/-- The number that hexadecimal digits spell. -/
def hexadecimal (digits : List Char) : Nat :=
  ofDigits 16 (digits.filterMap (Number.digit? 16))

/-- Whether a character may stand in the address of a tag; a percent sign starts an escape. -/
def isUriCharacter (c : Char) : Bool :=
  isNameCharacter c || ";/?:@&=+$,.!~*'()[]".toList.contains c

/-- What a tag handle or a tag address belongs to. -/
inductive TagUse where
  | directive
  | tag
  deriving DecidableEq, Repr

/-- The name of a use in messages. -/
def TagUse.name : TagUse → String
  | .directive => "a directive"
  | .tag => "a tag"

/-- Reads the bytes of escapes in the address of a tag. -/
def readUriBytes (use : TagUse) (start : Mark) :
    Nat → Cursor → Except FormError (List UInt8 × Cursor)
  | 0, cursor => .ok ([], cursor)
  | fuel + 1, cursor =>
    if cursor.peek != '%' then .ok ([], cursor)
    else
      let digits := cursor.next
      match [digits.peekAt 0, digits.peekAt 1].find? fun c => !isHexDigit c with
      | some c =>
        failDuring (.scanning use.name) start
          (.expected "URI escape sequence of 2 hexadecimal numbers" c) digits.mark
      | none => do
        let byte := UInt8.ofNat (hexadecimal (digits.rest.take 2))
        let (bytes, after) ← readUriBytes use start fuel (digits.forward 2)
        return (byte :: bytes, after)

/-- Reads the text of escapes in the address of a tag. -/
def readUriEscapes (use : TagUse) (start : Mark) (cursor : Cursor) :
    Except FormError (List Char × Cursor) := do
  let (bytes, after) ← readUriBytes use start cursor.stepsAhead cursor
  match Text.Utf8.decode bytes with
  | .ok text => return (text, after)
  | .error malformed => failDuring (.scanning use.name) start (.encoding malformed) cursor.mark

/-- Reads the parts of the address of a tag. -/
def readUriParts (use : TagUse) (start : Mark) :
    Nat → Cursor → Except FormError (List (List Char) × Cursor)
  | 0, cursor => .ok ([], cursor)
  | fuel + 1, cursor => do
    let (run, after) := cursor.span isUriCharacter
    if after.peek == '%' then
      let (text, after) ← readUriEscapes use start after
      let (parts, after) ← readUriParts use start fuel after
      return (run :: text :: parts, after)
    else return (if run.isEmpty then [] else [run], after)

/-- Reads the address of a tag. -/
def readUri (use : TagUse) (start : Mark) (cursor : Cursor) :
    Except FormError (String × Cursor) := do
  let (parts, after) ← readUriParts use start cursor.stepsAhead cursor
  if parts.isEmpty then
    failDuring (.parsing use.name) start (.expected "URI" after.peek) after.mark
  else return (String.ofList parts.flatten, after)

/-- Reads a tag handle. -/
def readTagHandle (use : TagUse) (start : Mark) (cursor : Cursor) :
    Except FormError (String × Cursor) :=
  let fail (found : Cursor) : Except FormError (String × Cursor) :=
    failDuring (.scanning use.name) start (.expected "'!'" found.peek) found.mark
  if cursor.peek != '!' then fail cursor
  else if cursor.peekAt 1 == ' ' then .ok ("!", cursor.next)
  else
    let (name, after) := cursor.next.span isNameCharacter
    if after.peek != '!' then fail after
    else .ok (String.ofList ('!' :: name ++ ['!']), after.next)

/-- Reads a number of the version of the language. -/
def readVersionNumber (start : Mark) (cursor : Cursor) : Except FormError (Nat × Cursor) :=
  let (digits, after) := cursor.span Char.isDigit
  if digits.isEmpty then
    failDuring (.scanning "a directive") start (.expected "a digit" cursor.peek) cursor.mark
  else .ok (decimal digits, after)

/-- Reads the version of the language. -/
def readVersion (start : Mark) (cursor : Cursor) : Except FormError (Directive × Cursor) := do
  let (major, dot) ← readVersionNumber start (cursor.skip (· == ' '))
  if dot.peek != '.' then
    failDuring (.scanning "a directive") start (.expected "a digit or '.'" dot.peek) dot.mark
  else
    let (minor, after) ← readVersionNumber start dot.next
    if isSpaceOrEnd after.peek then return (.version major minor, after)
    else
      failDuring (.scanning "a directive") start (.expected "a digit or ' '" after.peek) after.mark

/-- Reads a tag handle and what it stands for. -/
def readHandleDirective (start : Mark) (cursor : Cursor) :
    Except FormError (Directive × Cursor) := do
  let expectSpace (found : Cursor) : Except FormError (Directive × Cursor) :=
    failDuring (.scanning "a directive") start (.expected "' '" found.peek) found.mark
  let (handle, after) ← readTagHandle .directive start (cursor.skip (· == ' '))
  if after.peek != ' ' then expectSpace after
  else
    let (stem, after) ← readUri .directive start (after.skip (· == ' '))
    if isSpaceOrEnd after.peek then return (.tagHandle handle stem, after) else expectSpace after

/-- The cursor after the rest of a line that may hold nothing but a comment. -/
def skipRestOfLine (activity : Activity) (start : Mark) (cursor : Cursor) :
    Except FormError Cursor :=
  let after := (cursor.skip (· == ' ')).skipComment
  if isBreakOrEnd after.peek then .ok after.lineBreak.2
  else failDuring activity start (.expected "a comment or a line break" after.peek) after.mark

/-- Reads a directive with its line. -/
def readDirective (cursor : Cursor) : Except FormError (Token × Cursor) := do
  let start := cursor.mark
  let (name, after) := cursor.next.span isNameCharacter
  if name.isEmpty || !isSpaceOrEnd after.peek then
    failDuring (.scanning "a directive") start
      (.expected "alphabetic or numeric character" after.peek) after.mark
  else
    let (directive, stop) ←
      if name == "YAML".toList then readVersion start after
      else if name == "TAG".toList then readHandleDirective start after
      else pure (.unknown, after)
    let rest := if directive == .unknown then stop.skip fun c => !isBreakOrEnd c else stop
    let rest ← skipRestOfLine (.scanning "a directive") start rest
    return (⟨.directive directive, start, stop.mark⟩, rest)

/-- Reads the name of an anchor or an alias after its indicator. -/
def readAnchor (cursor : Cursor) : Except FormError (Token × Cursor) :=
  let isAlias := cursor.peek == '*'
  let (name, after) := cursor.next.span isNameCharacter
  if name.isEmpty || !(isGap after.peek || "?:,]\x7d%@`".toList.contains after.peek) then
    failDuring (.scanning (if isAlias then "an alias" else "an anchor")) cursor.mark
      (.expected "alphabetic or numeric character" after.peek) after.mark
  else
    let name := String.ofList name
    .ok (⟨if isAlias then .alias name else .anchor name, cursor.mark, after.mark⟩, after)

/-- Whether a tag has a handle of its own: a second exclamation mark before any space. -/
def hasHandle (cursor : Cursor) : Bool :=
  (cursor.next.rest.takeWhile fun c => !isSpaceOrEnd c).contains '!'

/-- Reads the handle and the suffix of a tag. -/
def readTagParts (cursor : Cursor) : Except FormError ((Option String × String) × Cursor) := do
  let start := cursor.mark
  if cursor.peekAt 1 == '<' then
    let (suffix, after) ← readUri .tag start (cursor.forward 2)
    if after.peek != '>' then
      failDuring (.parsing "a tag") start (.expected "'>'" after.peek) after.mark
    else return ((none, suffix), after.next)
  else if isGap (cursor.peekAt 1) then return ((none, "!"), cursor.next)
  else if hasHandle cursor then
    let (handle, after) ← readTagHandle .tag start cursor
    let (suffix, after) ← readUri .tag start after
    return ((some handle, suffix), after)
  else
    let (suffix, after) ← readUri .tag start cursor.next
    return ((some "!", suffix), after)

/-- Reads a tag. -/
def readTag (cursor : Cursor) : Except FormError (Token × Cursor) := do
  let ((handle, suffix), after) ← readTagParts cursor
  if isSpaceOrEnd after.peek then return (⟨.tag handle suffix, cursor.mark, after.mark⟩, after)
  else failDuring (.scanning "a tag") cursor.mark (.expected "' '" after.peek) after.mark

end Baseline.Yaml
