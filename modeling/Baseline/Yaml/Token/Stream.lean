import Baseline.Yaml.Token.Scalar

/-!
# The tokens of a text

A text is cut into tokens from its start. Indentation opens and closes block collections. A node may
turn out to be a key only at the colon after it; its token is held back until that is decided, and
the token of the key is put before it then.

What a text gives is the tokens that can be handed out in order, and the error that stops them, if
one does.
-/

namespace Baseline.Yaml

/-- A place where a key may have started: the number of the token there, whether it must be a key,
and its mark. -/
structure SimpleKey where
  tokenNumber : Nat
  required : Bool
  mark : Mark
  deriving DecidableEq, Repr

/-- The state of cutting a text: where it is, how deep in flow collections and in indentation, where
keys may have started at each depth, and the tokens that are held back. -/
structure Lexer where
  cursor : Cursor
  flowLevel : Int := 0
  indent : Int := -1
  indents : List Int := []
  allowsKey : Bool := true
  keys : List (Int × SimpleKey) := []
  held : List Token := []
  taken : Nat := 0
  finished : Bool := false

namespace Lexer

/-- Whether the lexer is inside a flow collection. -/
def inFlow (lexer : Lexer) : Bool := lexer.flowLevel != 0

/-- The mark of the lexer. -/
def mark (lexer : Lexer) : Mark := lexer.cursor.mark

/-- The column of the lexer. -/
def column (lexer : Lexer) : Int := lexer.cursor.column

/-- The lexer with one more token held. -/
def push (lexer : Lexer) (token : Token) : Lexer :=
  { lexer with held := lexer.held ++ [token] }

/-- The lexer with a token of no length at its place. -/
def pushHere (lexer : Lexer) (kind : TokenKind) : Lexer :=
  lexer.push ⟨kind, lexer.mark, lexer.mark⟩

/-- The lexer after some characters, which are a token. -/
def pushForward (lexer : Lexer) (kind : TokenKind) (length : Nat) : Lexer :=
  let after := lexer.cursor.forward length
  { lexer.push ⟨kind, lexer.mark, after.mark⟩ with cursor := after }

/-- The error of a key without its colon. -/
def missingColon {α : Type} (lexer : Lexer) (key : SimpleKey) : Except FormError α :=
  failDuring (.scanning "a simple key") key.mark .expectedColon lexer.mark

/-- Drops the places where a key can no longer have started: on an earlier line, or too far back. -/
def dropStaleKeys (lexer : Lexer) : Except FormError Lexer :=
  let isStale (key : SimpleKey) : Bool :=
    key.mark.line != lexer.mark.line || lexer.mark.index - key.mark.index > 1024
  match lexer.keys.find? fun (_, key) => isStale key && key.required with
  | some (_, key) => lexer.missingColon key
  | none => .ok { lexer with keys := lexer.keys.filter fun (_, key) => !isStale key }

/-- Drops the place where a key may have started at the current depth. -/
def dropKey (lexer : Lexer) : Except FormError Lexer :=
  match lexer.keys.lookup lexer.flowLevel with
  | none => .ok lexer
  | some key =>
    if key.required then lexer.missingColon key
    else .ok { lexer with keys := lexer.keys.filter fun (level, _) => level != lexer.flowLevel }

/-- Notes that a key may start here. -/
def noteKey (lexer : Lexer) : Except FormError Lexer :=
  if lexer.allowsKey then do
    let required := !lexer.inFlow && lexer.indent == lexer.column
    let lexer ← lexer.dropKey
    let key : SimpleKey := ⟨lexer.taken + lexer.held.length, required, lexer.mark⟩
    return { lexer with keys := lexer.keys ++ [(lexer.flowLevel, key)] }
  else .ok lexer

/-- Closes the block collections indented more than a column; `indents` are those around. -/
def closeBlocks (column : Int) : List Int → Lexer → Lexer
  | [], lexer => lexer
  | outer :: indents, lexer =>
    if lexer.indent > column then
      closeBlocks column indents
        { lexer.pushHere .blockEnd with indent := outer, indents := indents }
    else lexer

/-- Closes the block collections indented more than a column, outside flow collections. -/
def unwind (lexer : Lexer) (column : Int) : Lexer :=
  if lexer.inFlow then lexer else closeBlocks column lexer.indents lexer

/-- Whether a column is indented more than the block collection around it. -/
def opensBlock (lexer : Lexer) (column : Int) : Bool := lexer.indent < column

/-- The lexer inside a block collection at a column. -/
def indented (lexer : Lexer) (column : Int) : Lexer :=
  { lexer with indent := column, indents := lexer.indent :: lexer.indents }

/-- The lexer after the white space, line ends and comments at its place. -/
def skipGap : Nat → Lexer → Lexer
  | 0, lexer => lexer
  | fuel + 1, lexer =>
    let cursor := (lexer.cursor.skip (· == ' ')).skipComment
    if isBreak cursor.peek then
      skipGap fuel
        { lexer with cursor := cursor.lineBreak.2, allowsKey := lexer.allowsKey || !lexer.inFlow }
    else { lexer with cursor }

/-- The lexer at its next token. -/
def toNextToken (lexer : Lexer) : Lexer :=
  let atMark := lexer.mark.index == 0 && lexer.cursor.peek == byteOrderMark
  let lexer := if atMark then { lexer with cursor := lexer.cursor.next } else lexer
  lexer.skipGap lexer.cursor.stepsAhead

/-- Reads the end of the text. -/
def readEnd (lexer : Lexer) : Except FormError Lexer := do
  let lexer ← (lexer.unwind (-1)).dropKey
  return { lexer.pushHere .streamEnd with allowsKey := false, keys := [], finished := true }

/-- Reads what stands outside of documents, which closes all collections. -/
def outside (lexer : Lexer) : Except FormError Lexer := do
  let lexer ← (lexer.unwind (-1)).dropKey
  return { lexer with allowsKey := false }

/-- Opens a flow collection. -/
def openFlow (lexer : Lexer) (kind : TokenKind) : Except FormError Lexer := do
  let lexer ← lexer.noteKey
  return { lexer.pushForward kind 1 with flowLevel := lexer.flowLevel + 1, allowsKey := true }

/-- Closes a flow collection. -/
def closeFlow (lexer : Lexer) (kind : TokenKind) : Except FormError Lexer := do
  let lexer ← lexer.dropKey
  return { lexer.pushForward kind 1 with flowLevel := lexer.flowLevel - 1, allowsKey := false }

/-- Opens a block collection if its indentation is new, where a key or an entry may stand. -/
def openBlock (lexer : Lexer) (what : String) (kind : TokenKind) : Except FormError Lexer :=
  if lexer.inFlow then .ok lexer
  else if !lexer.allowsKey then failAt (.notAllowed what) lexer.mark
  else if lexer.opensBlock lexer.column then
    .ok ((lexer.indented lexer.column).pushHere kind)
  else .ok lexer

/-- Reads the indicator of an entry of a block sequence. -/
def readBlockEntry (lexer : Lexer) : Except FormError Lexer := do
  let lexer ← lexer.openBlock "sequence entries" .blockSequenceStart
  let lexer ← lexer.dropKey
  return { lexer.pushForward .blockEntry 1 with allowsKey := true }

/-- Reads the comma between entries of a flow collection. -/
def readFlowEntry (lexer : Lexer) : Except FormError Lexer := do
  let lexer ← lexer.dropKey
  return { lexer.pushForward .flowEntry 1 with allowsKey := true }

/-- Reads the indicator of a key. -/
def readKey (lexer : Lexer) : Except FormError Lexer := do
  let lexer ← lexer.openBlock "mapping keys" .blockMappingStart
  let lexer ← lexer.dropKey
  return { lexer.pushForward .key 1 with allowsKey := !lexer.inFlow }

/-- Puts a token among the held ones. -/
def insertHeld (lexer : Lexer) (place : Nat) (token : Token) : Lexer :=
  { lexer with held := lexer.held.take place ++ token :: lexer.held.drop place }

/-- Turns the node at a place where a key may have started into a key. -/
def settleKey (lexer : Lexer) (key : SimpleKey) : Lexer :=
  let place := key.tokenNumber - lexer.taken
  let keys := lexer.keys.filter fun (level, _) => level != lexer.flowLevel
  let lexer := { lexer.insertHeld place ⟨.key, key.mark, key.mark⟩ with keys, allowsKey := false }
  if !lexer.inFlow && lexer.opensBlock key.mark.column then
    (lexer.indented key.mark.column).insertHeld place ⟨.blockMappingStart, key.mark, key.mark⟩
  else lexer

/-- Reads the indicator of a value. -/
def readValue (lexer : Lexer) : Except FormError Lexer := do
  match lexer.keys.lookup lexer.flowLevel with
  | some key => return (lexer.settleKey key).pushForward .value 1
  | none =>
    let lexer ← lexer.openBlock "mapping values" .blockMappingStart
    let lexer ← { lexer with allowsKey := !lexer.inFlow }.dropKey
    return lexer.pushForward .value 1

/-- Reads a token that may be a key, after which no key may start. -/
def readNode (lexer : Lexer) (read : Cursor → Except FormError (Token × Cursor)) :
    Except FormError Lexer := do
  let lexer ← lexer.noteKey
  let (token, cursor) ← read lexer.cursor
  return { lexer.push token with cursor, allowsKey := false }

/-- Reads a block scalar. -/
def readBlock (lexer : Lexer) (folded : Bool) : Except FormError Lexer := do
  let lexer ← { lexer with allowsKey := true }.dropKey
  let (token, cursor) ← readBlockScalar folded lexer.indent lexer.cursor
  return { lexer.push token with cursor }

/-- Reads a plain scalar. -/
def readPlain (lexer : Lexer) : Except FormError Lexer := do
  let lexer ← lexer.noteKey
  let (token, endsLine, cursor) := readPlainScalar lexer.inFlow lexer.indent lexer.cursor
  return { lexer.push token with cursor, allowsKey := endsLine }

/-- Whether a separator of documents stands at the start of a line. -/
def atSeparator (lexer : Lexer) (separator : String) : Bool :=
  lexer.cursor.column == 0 && lexer.cursor.startsWith separator.toList &&
    isGap (lexer.cursor.peekAt 3)

/-- Whether a plain scalar may start with a character before another one. -/
def startsPlain (lexer : Lexer) (c next : Char) : Bool :=
  !(isGap c || "-?:,[]\x7b\x7d#&*!|>'\"%@\x60".toList.contains c) ||
    (!isGap next && (c == '-' || (!lexer.inFlow && (c == '?' || c == ':'))))

/-- Reads the token that starts with a character before another one. -/
def readTokenAt (lexer : Lexer) (c next : Char) : Except FormError Lexer :=
  let spaced := lexer.inFlow || isGap next
  if c == '%' && lexer.cursor.column == 0 then do
    let lexer ← lexer.outside
    let (token, cursor) ← readDirective lexer.cursor
    return { lexer.push token with cursor }
  else if lexer.atSeparator "---" then
    lexer.outside.map (·.pushForward .documentStart 3)
  else if lexer.atSeparator "..." then
    lexer.outside.map (·.pushForward .documentEnd 3)
  else if c == '[' then lexer.openFlow .flowSequenceStart
  else if c == '\x7b' then lexer.openFlow .flowMappingStart
  else if c == ']' then lexer.closeFlow .flowSequenceEnd
  else if c == '\x7d' then lexer.closeFlow .flowMappingEnd
  else if c == ',' then lexer.readFlowEntry
  else if c == '-' && isGap next then lexer.readBlockEntry
  else if c == '?' && spaced then lexer.readKey
  else if c == ':' && spaced then lexer.readValue
  else if c == '*' || c == '&' then lexer.readNode readAnchor
  else if c == '!' then lexer.readNode readTag
  else if c == '|' && !lexer.inFlow then lexer.readBlock false
  else if c == '>' && !lexer.inFlow then lexer.readBlock true
  else if c == '\'' then lexer.readNode (readQuotedScalar false)
  else if c == '"' then lexer.readNode (readQuotedScalar true)
  else if lexer.startsPlain c next then lexer.readPlain
  else
    .error (.marked ⟨some (.scanning "for the next token", none), .cannotStart c, lexer.mark⟩)

/-- Reads one more token, and those that indentation puts before it. -/
def readToken (lexer : Lexer) : Except FormError Lexer := do
  let lexer ← lexer.toNextToken.dropStaleKeys
  let lexer := lexer.unwind lexer.column
  if lexer.cursor.rest.isEmpty then lexer.readEnd
  else lexer.readTokenAt lexer.cursor.peek (lexer.cursor.peekAt 1)

/-- The number of the first token that may still become a key. -/
def firstOpenKey? (lexer : Lexer) : Option Nat :=
  (lexer.keys.map fun (_, key) => key.tokenNumber).min?

end Lexer

/-- The tokens that can be handed out, and the error that stops them, if one does. -/
structure Tokens where
  tokens : List Token
  ending : Option FormError

/-- The tokens after those in `done`, which stand in reverse. A token is handed out once it is
certain that it starts no key. -/
def Lexer.run (done : List Token) : Nat → Lexer → Tokens
  | 0, _ => ⟨done.reverse, none⟩
  | fuel + 1, lexer =>
    match lexer.held, lexer.finished with
    | [], true => ⟨done.reverse, none⟩
    | token :: held, true => run (token :: done) fuel { lexer with held, taken := lexer.taken + 1 }
    | [], false =>
      match lexer.readToken with
      | .error e => ⟨done.reverse, some e⟩
      | .ok lexer => run done fuel lexer
    | token :: held, false =>
      match lexer.dropStaleKeys with
      | .error e => ⟨done.reverse, some e⟩
      | .ok lexer =>
        if lexer.firstOpenKey? == some lexer.taken then
          match lexer.readToken with
          | .error e => ⟨done.reverse, some e⟩
          | .ok lexer => run done fuel lexer
        else run (token :: done) fuel { lexer with held, taken := lexer.taken + 1 }

/-- The tokens of a text. -/
def Tokens.ofText (s : String) : Tokens :=
  let cs := s.toList
  match firstUnacceptable 0 cs with
  | some e => ⟨[], some e⟩
  | none =>
    let start : Lexer := { cursor := .ofText cs }
    (start.pushHere .streamStart).run [] (8 * cs.length + 32)

end Baseline.Yaml
