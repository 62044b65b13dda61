/-!
# Places in a YAML text

A mark is a place in a text, a cursor a place from which reading goes on. Five characters end a
line, a carriage return and a line feed together ending one. Past the end of the text stands the
null character, which no text holds.
-/

namespace Baseline.Yaml

/-- A place in a text: how many characters, lines, and characters of its line stand before it. -/
structure Mark where
  index : Nat
  line : Nat
  column : Nat
  deriving DecidableEq, Repr

/-- The start of a text. -/
def Mark.start : Mark := ⟨0, 0, 0⟩

/-- The character that stands past the end of every text. -/
def endCharacter : Char := '\x00'

/-- Whether a character ends a line. -/
def isBreak (c : Char) : Bool :=
  c == '\r' || c == '\n' || c == '\u0085' || c == '\u2028' || c == '\u2029'

/-- Whether a character ends a line or stands past the end. -/
def isBreakOrEnd (c : Char) : Bool := c == endCharacter || isBreak c

/-- Whether a character is a space, ends a line or stands past the end. -/
def isSpaceOrEnd (c : Char) : Bool := c == ' ' || isBreakOrEnd c

/-- Whether a character is a space or a tab, ends a line or stands past the end. -/
def isGap (c : Char) : Bool := c == '\t' || isSpaceOrEnd c

/-- The byte order mark, which takes no column. -/
def byteOrderMark : Char := '\ufeff'

/-- The mark after a character; `next` is the one that follows it. -/
def Mark.after (mark : Mark) (c next : Char) : Mark :=
  if isBreak c && !(c == '\r' && next == '\n') then ⟨mark.index + 1, mark.line + 1, 0⟩
  else if c == byteOrderMark then ⟨mark.index + 1, mark.line, mark.column⟩
  else ⟨mark.index + 1, mark.line, mark.column + 1⟩

/-- A place in a text with what follows it, and the number of characters of the whole text. -/
structure Cursor where
  rest : List Char
  mark : Mark
  size : Nat
  deriving DecidableEq, Repr

namespace Cursor

/-- The start of a text. -/
def ofText (cs : List Char) : Cursor := ⟨cs, .start, cs.length⟩

/-- One step more than there are characters ahead. -/
def stepsAhead (cursor : Cursor) : Nat := cursor.size - cursor.mark.index + 1

/-- The character at a place ahead. -/
def peekAt (cursor : Cursor) (n : Nat) : Char := cursor.rest.getD n endCharacter

/-- The character at the cursor. -/
def peek (cursor : Cursor) : Char := cursor.rest.headD endCharacter

/-- The cursor one character on. -/
def next (cursor : Cursor) : Cursor :=
  match cursor.rest with
  | [] => cursor
  | c :: rest => ⟨rest, cursor.mark.after c (rest.headD endCharacter), cursor.size⟩

/-- The cursor some characters on. -/
def forward (cursor : Cursor) : Nat → Cursor
  | 0 => cursor
  | n + 1 => cursor.next.forward n

/-- The longest run of characters with a property, and the cursor after it. -/
def span (cursor : Cursor) (p : Char → Bool) : List Char × Cursor :=
  let run := cursor.rest.takeWhile p
  (run, cursor.forward run.length)

/-- The cursor after the longest run of characters with a property. -/
def skip (cursor : Cursor) (p : Char → Bool) : Cursor := (cursor.span p).2

/-- Whether a text follows. -/
def startsWith (cursor : Cursor) (cs : List Char) : Bool := cs.isPrefixOf cursor.rest

/-- The column of the cursor. -/
def column (cursor : Cursor) : Nat := cursor.mark.column

/-- A line end at the cursor as it is read, nothing if there is none, and the cursor after it. -/
def lineBreak (cursor : Cursor) : List Char × Cursor :=
  match cursor.rest with
  | '\r' :: '\n' :: _ => (['\n'], cursor.forward 2)
  | c :: _ =>
    if c == '\u2028' || c == '\u2029' then ([c], cursor.next)
    else if isBreak c then (['\n'], cursor.next)
    else ([], cursor)
  | [] => ([], cursor)

/-- The cursor after a comment, if one starts at it. -/
def skipComment (cursor : Cursor) : Cursor :=
  if cursor.peek == '#' then cursor.skip fun c => !isBreakOrEnd c else cursor

/-- Whether a line of three equal marks that separates documents follows. -/
def atSeparator (cursor : Cursor) : Bool :=
  (cursor.startsWith "---".toList || cursor.startsWith "...".toList) && isGap (cursor.peekAt 3)

end Cursor

/-- Whether a character may stand in a name. -/
def isNameCharacter (c : Char) : Bool := c.isAlphanum || c == '-' || c == '_'

end Baseline.Yaml
