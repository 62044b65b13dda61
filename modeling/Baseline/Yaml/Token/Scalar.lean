import Baseline.Yaml.Token.Property

/-!
# Scalars

A scalar is plain, quoted, or a block of lines below its indicator. Line ends within a scalar are
folded: one between two lines is a space, and each further one stands for itself.
-/

namespace Baseline.Yaml

/-! ### Block scalars -/

/-- What becomes of the line ends at the end of a block. -/
inductive Chomping where
  | strip
  | clip
  | keep
  deriving DecidableEq, Repr

/-- The header of a block: what becomes of its last line ends, and its indentation if given. -/
structure BlockHeader where
  chomping : Chomping
  increment : Option Nat
  deriving DecidableEq, Repr

/-- The chomping of an indicator, if it is one. -/
def chompingOf? (c : Char) : Option Chomping :=
  if c == '+' then some .keep else if c == '-' then some .strip else none

/-- Reads an indentation digit, which may be missing. -/
def readIncrement (start : Mark) (cursor : Cursor) : Except FormError (Option Nat × Cursor) :=
  let c := cursor.peek
  if c == '0' then failDuring (.scanning "a block scalar") start .zeroIndentation cursor.mark
  else if c.isDigit then .ok (some (c.toNat - 0x30), cursor.next)
  else .ok (none, cursor)

/-- Reads the indicators of a block, in either order. -/
def readBlockHeader (start : Mark) (cursor : Cursor) : Except FormError (BlockHeader × Cursor) := do
  let (header, after) ←
    match chompingOf? cursor.peek with
    | some chomping => do
      let (increment, after) ← readIncrement start cursor.next
      pure (BlockHeader.mk chomping increment, after)
    | none => do
      let (increment, after) ← readIncrement start cursor
      match increment, chompingOf? after.peek with
      | some _, some chomping => pure (BlockHeader.mk chomping increment, after.next)
      | _, _ => pure (BlockHeader.mk .clip increment, after)
  if isSpaceOrEnd after.peek then return (header, after)
  else
    failDuring (.scanning "a block scalar") start
      (.expected "chomping or indentation indicators" after.peek) after.mark

/-- The line ends before the first line of a block whose indentation is not given, that indentation
if no line is indented more, the mark after the last of them, and the cursor. -/
def leadingBreaks (deepest : Nat) (stop : Mark) :
    Nat → Cursor → List (List Char) × Nat × Mark × Cursor
  | 0, cursor => ([], deepest, stop, cursor)
  | fuel + 1, cursor =>
    if cursor.peek == ' ' then
      leadingBreaks (max deepest cursor.next.column) stop fuel cursor.next
    else if isBreak cursor.peek then
      let (lineEnd, after) := cursor.lineBreak
      let (breaks, result) := leadingBreaks deepest after.mark fuel after
      (lineEnd :: breaks, result)
    else ([], deepest, stop, cursor)

/-- The cursor after the spaces of a line up to an indentation. -/
def skipIndentation (indent : Nat) (cursor : Cursor) : Cursor :=
  cursor.forward ((cursor.rest.take (indent - cursor.column)).takeWhile (· == ' ')).length

/-- The line ends of the blank lines of a block, the mark after the last of them, and the cursor. -/
def innerBreaks (indent : Nat) (stop : Mark) :
    Nat → Cursor → List (List Char) × Mark × Cursor
  | 0, cursor => ([], stop, cursor)
  | fuel + 1, cursor =>
    let cursor := skipIndentation indent cursor
    if isBreak cursor.peek then
      let (lineEnd, after) := cursor.lineBreak
      let (breaks, result) := innerBreaks indent after.mark fuel after
      (lineEnd :: breaks, result)
    else ([], stop, cursor)

/-- What the lines of a block leave for its end: the parts of its text so far, the last one first, the
last line end, the blank lines after it, the mark after those, and the cursor. -/
structure BlockLines where
  done : List (List Char)
  lineEnd : List Char
  breaks : List (List Char)
  stop : Mark
  cursor : Cursor

/-- Whether a line may be folded at a character. -/
def isFoldable (c : Char) : Bool := c != ' ' && c != '\t'

/-- Reads the lines of a block that are indented as its first one. -/
def readBlockLines (folded : Bool) (indent : Nat) : Nat → BlockLines → BlockLines
  | 0, lines => lines
  | fuel + 1, lines =>
    if lines.cursor.column != indent || lines.cursor.rest.isEmpty then lines
    else
      let (line, after) := lines.cursor.span fun c => !isBreakOrEnd c
      let (lineEnd, after) := after.lineBreak
      let (breaks, stop, next) := innerBreaks indent after.mark after.stepsAhead after
      let done := line :: lines.breaks.flatten :: lines.done
      if next.column == indent && !next.rest.isEmpty then
        let folds := folded && lineEnd == ['\n'] && isFoldable lines.cursor.peek &&
          isFoldable next.peek
        let separator := if !folds then lineEnd else if breaks.isEmpty then [' '] else []
        readBlockLines folded indent fuel ⟨separator :: done, [], breaks, stop, next⟩
      else ⟨done, lineEnd, breaks, stop, next⟩

/-- Reads a block below the indentation of what it stands in. -/
def readBlockScalar (folded : Bool) (parentIndent : Int) (cursor : Cursor) :
    Except FormError (Token × Cursor) := do
  let start := cursor.mark
  let (header, after) ← readBlockHeader start cursor.next
  let after ← skipRestOfLine (.scanning "a block scalar") start after
  let least := (parentIndent + 1).toNat.max 1
  let fuel := after.stepsAhead
  let (indent, breaks, stop, first) :=
    match header.increment with
    | none =>
      let (breaks, deepest, stop, first) := leadingBreaks 0 after.mark fuel after
      (max least deepest, breaks, stop, first)
    | some increment =>
      let indent := least + increment - 1
      let (breaks, stop, first) := innerBreaks indent after.mark fuel after
      (indent, breaks, stop, first)
  let lines := readBlockLines folded indent fuel ⟨[], [], breaks, stop, first⟩
  let ending := if header.chomping == .strip then [] else lines.lineEnd
  let blank := if header.chomping == .keep then lines.breaks.flatten else []
  let text := String.ofList (lines.done.reverse.flatten ++ ending ++ blank)
  return (⟨.scalar text false, start, lines.stop⟩, lines.cursor)

/-! ### Quoted scalars -/

/-- The character of an escape of one letter. -/
def escape? (c : Char) : Option Char :=
  [('0', '\x00'), ('a', '\x07'), ('b', '\x08'), ('t', '\t'), ('\t', '\t'), ('n', '\n'),
    ('v', '\x0b'), ('f', '\x0c'), ('r', '\r'), ('e', '\x1b'), (' ', ' '), ('"', '"'),
    ('\\', '\\'), ('/', '/'), ('N', '\u0085'), ('_', '\u00a0'), ('L', '\u2028'),
    ('P', '\u2029')].lookup c

/-- The number of hexadecimal digits of an escape that gives a code point. -/
def escapeDigits? (c : Char) : Option Nat :=
  [('x', 2), ('u', 4), ('U', 8)].lookup c

/-- Reads the line ends between two lines of a quoted scalar. -/
def quotedBreaks (start : Mark) : Nat → Cursor → Except FormError (List (List Char) × Cursor)
  | 0, cursor => .ok ([], cursor)
  | fuel + 1, cursor =>
    if cursor.atSeparator then
      failDuring (.scanning "a quoted scalar") start .documentSeparator cursor.mark
    else
      let after := cursor.skip fun c => c == ' ' || c == '\t'
      if isBreak after.peek then do
        let (lineEnd, after) := after.lineBreak
        let (breaks, after) ← quotedBreaks start fuel after
        return (lineEnd :: breaks, after)
      else .ok ([], after)

/-- Reads the white space within a quoted scalar. -/
def quotedSpaces (start : Mark) (cursor : Cursor) : Except FormError (List Char × Cursor) :=
  let (spaces, after) := cursor.span fun c => c == ' ' || c == '\t'
  if after.rest.isEmpty then
    failDuring (.scanning "a quoted scalar") start .endOfStream after.mark
  else if isBreak after.peek then do
    let (lineEnd, after) := after.lineBreak
    let (breaks, after) ← quotedBreaks start after.stepsAhead after
    let first := if lineEnd != ['\n'] then lineEnd else if breaks.isEmpty then [' '] else []
    return (first ++ breaks.flatten, after)
  else .ok (spaces, after)

/-- Reads an escape after its backslash. -/
def readEscape (start : Mark) (cursor : Cursor) : Except FormError (List Char × Cursor) :=
  let c := cursor.peek
  match escape? c, escapeDigits? c with
  | some character, _ => .ok ([character], cursor.next)
  | none, some count =>
    let digits := cursor.next
    match ((List.range count).map digits.peekAt).find? fun c => !isHexDigit c with
    | some found =>
      failDuring (.scanning "a double-quoted scalar") start
        (.expected s!"escape sequence of {count} hexadecimal numbers" found) digits.mark
    | none =>
      let code := hexadecimal (digits.rest.take count)
      if code ≤ 0x10ffff then
        .ok ([if code.isValidChar then Char.ofNat code else '\ufffd'], digits.forward count)
      else .error (.codePoint code)
  | none, none =>
    if isBreak c then do
      let (breaks, after) ← quotedBreaks start cursor.stepsAhead cursor.lineBreak.2
      return (breaks.flatten, after)
    else
      failDuring (.scanning "a double-quoted scalar") start (.unknownEscape c) cursor.mark

/-- Reads the text of a quoted scalar from after its opening quote to after its closing one; `done`
are the parts read so far, the last one first. -/
def readQuotedText (double : Bool) (start : Mark) (done : List (List Char)) :
    Nat → Cursor → Except FormError (List Char × Cursor)
  | 0, cursor => .ok (done.reverse.flatten, cursor)
  | fuel + 1, cursor =>
    let (run, after) := cursor.span fun c => !(isGap c || "'\"\\".toList.contains c)
    let done := if run.isEmpty then done else run :: done
    let c := after.peek
    if !double && c == '\'' && after.peekAt 1 == '\'' then
      readQuotedText double start (['\''] :: done) fuel (after.forward 2)
    else if c == (if double then '"' else '\'') then
      .ok (done.reverse.flatten, after.next)
    else if "'\"".toList.contains c || (!double && c == '\\') then
      readQuotedText double start ([c] :: done) fuel after.next
    else if c == '\\' then do
      let (text, after) ← readEscape start after.next
      readQuotedText double start (text :: done) fuel after
    else do
      let (text, after) ← quotedSpaces start after
      readQuotedText double start (text :: done) fuel after

/-- Reads a quoted scalar. -/
def readQuotedScalar (double : Bool) (cursor : Cursor) : Except FormError (Token × Cursor) := do
  let (text, after) ←
    readQuotedText double cursor.mark [] cursor.stepsAhead cursor.next
  return (⟨.scalar (String.ofList text) false, cursor.mark, after.mark⟩, after)

/-! ### Plain scalars -/

/-- The length of the run of a plain scalar at the start of a text. -/
def plainRun (inFlow : Bool) : List Char → Nat
  | [] => 0
  | c :: rest =>
    let next := rest.headD endCharacter
    let ends := isGap c ||
      (c == ':' && (isGap next || (inFlow && ",[]\x7b\x7d".toList.contains next))) ||
      (inFlow && ",?[]\x7b\x7d".toList.contains c)
    if ends then 0 else plainRun inFlow rest + 1

/-- The line ends between two lines of a plain scalar, with the cursor after them; `none` when a
document separator stands among them. -/
def plainBreaks : Nat → Cursor → Option (List (List Char)) × Cursor
  | 0, cursor => (some [], cursor)
  | fuel + 1, cursor =>
    if cursor.peek == ' ' then plainBreaks fuel cursor.next
    else if isBreak cursor.peek then
      let (lineEnd, after) := cursor.lineBreak
      if after.atSeparator then (none, after)
      else
        let (breaks, after) := plainBreaks fuel after
        (breaks.map (lineEnd :: ·), after)
    else (some [], cursor)

/-- What stands between two runs of a plain scalar: the text it is read as, whether it holds a line
end, and the cursor after it. The text is empty when the scalar ends here. -/
def plainSpaces (cursor : Cursor) : List Char × Bool × Cursor :=
  let (spaces, after) := cursor.span (· == ' ')
  if isBreak after.peek then
    let (lineEnd, after) := after.lineBreak
    if after.atSeparator then ([], true, after)
    else
      match plainBreaks after.stepsAhead after with
      | (none, after) => ([], true, after)
      | (some breaks, after) =>
        let first := if lineEnd != ['\n'] then lineEnd else if breaks.isEmpty then [' '] else []
        (first ++ breaks.flatten, true, after)
  else (spaces, false, after)

/-- A plain scalar as far as it is read: the parts of its text, the last one first, whether a line end
follows it, the mark of its end, and the cursor. -/
structure PlainText where
  done : List (List Char)
  endsLine : Bool
  stop : Mark
  cursor : Cursor

/-- Reads on in a plain scalar after the spaces before its next run. -/
def readPlainText (inFlow : Bool) (indent : Int) (spaces : List Char) :
    Nat → PlainText → PlainText
  | 0, plain => plain
  | fuel + 1, plain =>
    let length := plainRun inFlow plain.cursor.rest
    if plain.cursor.peek == '#' || length == 0 then plain
    else
      let done := plain.cursor.rest.take length :: spaces :: plain.done
      let stop := plain.cursor.forward length
      let (spaces, endsLine, after) := plainSpaces stop
      let read : PlainText := ⟨done, endsLine, stop.mark, after⟩
      if spaces.isEmpty || after.peek == '#' || (!inFlow && after.column < indent) then read
      else readPlainText inFlow indent spaces fuel read

/-- Reads a plain scalar, and tells whether a line end follows it. -/
def readPlainScalar (inFlow : Bool) (parentIndent : Int) (cursor : Cursor) :
    Token × Bool × Cursor :=
  let plain := readPlainText inFlow (parentIndent + 1) [] cursor.stepsAhead
    ⟨[], false, cursor.mark, cursor⟩
  (⟨.scalar (String.ofList plain.done.reverse.flatten) true, cursor.mark, plain.stop⟩, plain.endsLine,
    plain.cursor)

end Baseline.Yaml
