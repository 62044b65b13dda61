import Baseline.Yaml.Token.Stream

/-!
# Events of a YAML text

The tokens of a text are read by a grammar of documents and nodes. What that gives is events: where
documents and collections start and end, and the scalars and aliases between.
-/

namespace Baseline.Yaml

/-- What an event is. A node may have an anchor and a tag; a scalar tells whether its kind may be
found out from its text. -/
inductive EventKind where
  | streamStart
  | streamEnd
  | documentStart
  | documentEnd
  | alias (name : String)
  | scalar (anchor tag : Option String) (untagged : Bool) (text : String)
  | sequenceStart (anchor tag : Option String)
  | sequenceEnd
  | mappingStart (anchor tag : Option String)
  | mappingEnd
  deriving DecidableEq, Repr

/-- An event with the mark of its start. -/
structure Event where
  kind : EventKind
  start : Mark
  deriving DecidableEq, Repr

/-- What the grammar expects next. -/
inductive Expectation where
  | streamStart
  | implicitDocument
  | document
  | documentEnd
  | documentContent
  | blockNode
  | blockSequenceFirst
  | blockSequenceEntry
  | indentlessEntry
  | blockMappingFirst
  | blockMappingKey
  | blockMappingValue
  | flowSequenceFirst
  | flowSequenceEntry
  | pairKey
  | pairValue
  | pairEnd
  | flowMappingFirst
  | flowMappingKey
  | flowMappingValue
  | flowMappingEmptyValue
  | nothing
  deriving DecidableEq, Repr

/-- The state of reading tokens: those that remain and the error after them, what is expected next
and after that, where the open collections started, and what the tag handles stand for. -/
structure Grammar where
  tokens : List Token
  ending : Option FormError
  expected : Expectation := .streamStart
  later : List Expectation := []
  marks : List Mark := []
  handles : List (String × String) := []
  lastMark : Mark := .start

/-- An event and the state after it. -/
abbrev GrammarStep := Except FormError (Event × Grammar)

namespace Grammar

/-- The tag handles that every document has. -/
def standardHandles : List (String × String) := [("!", "!"), ("!!", "tag:yaml.org,2002:")]

/-- The next token. -/
def peek (g : Grammar) : Except FormError Token :=
  match g.tokens, g.ending with
  | token :: _, _ => .ok token
  | [], some e => .error e
  | [], none => .ok ⟨.streamEnd, g.lastMark, g.lastMark⟩

/-- The state after the next token. -/
def drop (g : Grammar) : Grammar :=
  { g with tokens := g.tokens.tail, lastMark := (g.tokens.head?.map Token.stop).getD g.lastMark }

/-- The state that expects something next. -/
def expect (g : Grammar) (expected : Expectation) : Grammar := { g with expected }

/-- The state that expects something after what comes next. -/
def pushLater (g : Grammar) (expected : Expectation) : Grammar :=
  { g with later := expected :: g.later }

/-- The state that goes on with what was left for later. -/
def resume (g : Grammar) : Grammar :=
  { g with expected := g.later.headD .nothing, later := g.later.tail }

/-- The state inside a collection that started at a mark. -/
def enter (g : Grammar) (mark : Mark) : Grammar := { g with marks := mark :: g.marks }

/-- The state after a collection. -/
def leave (g : Grammar) : Grammar := { g.resume with marks := g.marks.tail }

/-- The start of the innermost open collection. -/
def openMark (g : Grammar) : Mark := g.marks.headD .start

/-- An empty scalar at a mark. -/
def emptyScalar (g : Grammar) (mark : Mark) : GrammarStep :=
  .ok (⟨.scalar none none true "", mark⟩, g)

/-- The properties of a node: its anchor, its tag, and their marks. -/
structure Properties where
  anchor : Option String := none
  tag : Option (Option String × String) := none
  start : Option Mark := none
  tagMark : Mark := .start

/-- Reads the properties of a node; an anchor and a tag, in either order, may come first. -/
def readProperties (g : Grammar) : Except FormError (Properties × Grammar) := do
  let first ← g.peek
  match first.kind with
  | .anchor name =>
    let second ← g.drop.peek
    match second.kind with
    | .tag handle suffix =>
      return (⟨some name, some (handle, suffix), some first.start, second.start⟩, g.drop.drop)
    | _ => return (⟨some name, none, some first.start, .start⟩, g.drop)
  | .tag handle suffix =>
    let second ← g.drop.peek
    match second.kind with
    | .anchor name =>
      return (⟨some name, some (handle, suffix), some first.start, first.start⟩, g.drop.drop)
    | _ => return (⟨none, some (handle, suffix), some first.start, first.start⟩, g.drop)
  | _ => return ({}, g)

/-- The full tag of a node. -/
def fullTag (g : Grammar) (properties : Properties) : Except FormError (Option String) :=
  match properties.tag with
  | none => .ok none
  | some (none, suffix) => .ok (some suffix)
  | some (some handle, suffix) =>
    match g.handles.lookup handle with
    | some stem => .ok (some (stem ++ suffix))
    | none =>
      failDuring (.parsing "a node") (properties.start.getD .start) (.undefinedHandle handle)
        properties.tagMark

/-- Reads a node. A block node may be a block collection, and after a key also a sequence that is
not indented. -/
def readNode (g : Grammar) (block indentless : Bool) : GrammarStep := do
  let token ← g.peek
  match token.kind with
  | .alias name => return (⟨.alias name, token.start⟩, g.drop.resume)
  | _ =>
    let (properties, g) ← g.readProperties
    let tag ← g.fullTag properties
    let anchor := properties.anchor
    let token ← g.peek
    let start := properties.start.getD token.start
    match token.kind, block, indentless with
    | .blockEntry, _, true => return (⟨.sequenceStart anchor tag, start⟩, g.expect .indentlessEntry)
    | .scalar text plain, _, _ =>
      let untagged := (plain && tag.isNone) || tag == some "!"
      return (⟨.scalar anchor tag untagged text, start⟩, g.drop.resume)
    | .flowSequenceStart, _, _ =>
      return (⟨.sequenceStart anchor tag, start⟩, g.expect .flowSequenceFirst)
    | .flowMappingStart, _, _ =>
      return (⟨.mappingStart anchor tag, start⟩, g.expect .flowMappingFirst)
    | .blockSequenceStart, true, _ =>
      return (⟨.sequenceStart anchor tag, start⟩, g.expect .blockSequenceFirst)
    | .blockMappingStart, true, _ =>
      return (⟨.mappingStart anchor tag, start⟩, g.expect .blockMappingFirst)
    | kind, _, _ =>
      if anchor.isSome || tag.isSome then
        return (⟨.scalar anchor tag (tag.isNone || tag == some "!") "", start⟩, g.resume)
      else
        failDuring (.parsing (if block then "a block node" else "a flow node")) start
          (.expectedToken "the node content" kind.name) token.start

/-- Reads directives after those that gave a version and the tag handles so far. -/
def readDirectives (hasVersion : Bool) (handles : List (String × String)) :
    List Token → Except FormError (List (String × String) × List Token)
  | [] => .ok (handles, [])
  | token :: rest =>
    match token.kind with
    | .directive (.version major _) =>
      if hasVersion then failAt .repeatedVersion token.start
      else if major != 1 then failAt .incompatibleVersion token.start
      else readDirectives true handles rest
    | .directive (.tagHandle handle stem) =>
      if (handles.lookup handle).isSome then failAt (.repeatedHandle handle) token.start
      else readDirectives hasVersion (handles ++ [(handle, stem)]) rest
    | .directive .unknown => readDirectives hasVersion handles rest
    | _ => .ok (handles, token :: rest)

/-- The state after the indicators of document ends. -/
def dropDocumentEnds (g : Grammar) : Grammar :=
  let rest := g.tokens.dropWhile (·.kind == .documentEnd)
  { g with tokens := rest }

/-- Reads the start of a document with its directives, or the end of the text. -/
def readDocumentStart (g : Grammar) : GrammarStep := do
  let g := g.dropDocumentEnds
  let first ← g.peek
  match first.kind with
  | .streamEnd => return (⟨.streamEnd, first.start⟩, g.drop.expect .nothing)
  | _ =>
    let (handles, rest) ← readDirectives false [] g.tokens
    let g := { g with tokens := rest, handles := handles ++ standardHandles }
    let token ← g.peek
    match token.kind with
    | .documentStart =>
      return (⟨.documentStart, first.start⟩,
        (g.drop.pushLater .documentEnd).expect .documentContent)
    | kind => failAt (.expectedToken "'<document start>'" kind.name) token.start

/-- Reads the node after an indicator, or an empty scalar when one of some tokens follows. -/
def readAfter (g : Grammar) (indicator : Token) (later : Expectation) (stops : List TokenKind)
    (node : Grammar → GrammarStep) : GrammarStep := do
  let token ← g.peek
  if stops.contains token.kind then (g.expect later).emptyScalar indicator.stop
  else node (g.pushLater later)

/-- The end of a collection at a token. -/
def endCollection (g : Grammar) (kind : EventKind) (token : Token) : GrammarStep :=
  .ok (⟨kind, token.start⟩, g.drop.leave)

/-- Reads an entry of a block sequence, or its end. -/
def readBlockSequenceEntry (g : Grammar) : GrammarStep := do
  let token ← g.peek
  match token.kind with
  | .blockEntry =>
    g.drop.readAfter token .blockSequenceEntry [.blockEntry, .blockEnd] (·.readNode true false)
  | .blockEnd => g.endCollection .sequenceEnd token
  | kind =>
    failDuring (.parsing "a block collection") g.openMark (.expectedToken "<block end>" kind.name)
      token.start

/-- Reads an entry of a sequence that is not indented, or its end. -/
def readIndentlessEntry (g : Grammar) : GrammarStep := do
  let token ← g.peek
  match token.kind with
  | .blockEntry =>
    g.drop.readAfter token .indentlessEntry [.blockEntry, .key, .value, .blockEnd]
      (·.readNode true false)
  | _ => return (⟨.sequenceEnd, token.start⟩, g.resume)

/-- Reads a key of a block mapping, or its end. -/
def readBlockMappingKey (g : Grammar) : GrammarStep := do
  let token ← g.peek
  match token.kind with
  | .key =>
    g.drop.readAfter token .blockMappingValue [.key, .value, .blockEnd] (·.readNode true true)
  | .blockEnd => g.endCollection .mappingEnd token
  | kind =>
    failDuring (.parsing "a block mapping") g.openMark (.expectedToken "<block end>" kind.name)
      token.start

/-- Reads a value of a block mapping. -/
def readBlockMappingValue (g : Grammar) : GrammarStep := do
  let token ← g.peek
  match token.kind with
  | .value =>
    g.drop.readAfter token .blockMappingKey [.key, .value, .blockEnd] (·.readNode true true)
  | _ => (g.expect .blockMappingKey).emptyScalar token.start

/-- Reads the comma before an entry of a flow collection. -/
def readComma (g : Grammar) (first : Bool) (activity : Activity) (what : String) :
    Except FormError Grammar := do
  let token ← g.peek
  match first, token.kind with
  | true, _ => return g
  | false, .flowEntry => return g.drop
  | false, kind =>
    failDuring activity g.openMark (.expectedDelimiter what kind.name) token.start

/-- Reads an entry of a flow sequence, or its end. An entry may be a pair of a key and a value. -/
def readFlowSequenceEntry (g : Grammar) (first : Bool) : GrammarStep := do
  let token ← g.peek
  if token.kind == .flowSequenceEnd then g.endCollection .sequenceEnd token
  else
    let g ← g.readComma first (.parsing "a flow sequence") "',' or ']'"
    let token ← g.peek
    match token.kind with
    | .key => return (⟨.mappingStart none none, token.start⟩, g.expect .pairKey)
    | .flowSequenceEnd => g.endCollection .sequenceEnd token
    | _ => (g.pushLater .flowSequenceEntry).readNode false false

/-- Reads the key of a pair in a flow sequence. -/
def readPairKey (g : Grammar) : GrammarStep := do
  let token ← g.peek
  g.drop.readAfter token .pairValue [.value, .flowEntry, .flowSequenceEnd] (·.readNode false false)

/-- Reads the value of a pair in a flow sequence. -/
def readPairValue (g : Grammar) : GrammarStep := do
  let token ← g.peek
  match token.kind with
  | .value =>
    g.drop.readAfter token .pairEnd [.flowEntry, .flowSequenceEnd] (·.readNode false false)
  | _ => (g.expect .pairEnd).emptyScalar token.start

/-- The end of a pair in a flow sequence. -/
def readPairEnd (g : Grammar) : GrammarStep := do
  let token ← g.peek
  return (⟨.mappingEnd, token.start⟩, g.expect .flowSequenceEntry)

/-- Reads a key of a flow mapping, or its end. -/
def readFlowMappingKey (g : Grammar) (first : Bool) : GrammarStep := do
  let token ← g.peek
  if token.kind == .flowMappingEnd then g.endCollection .mappingEnd token
  else
    let g ← g.readComma first (.parsing "a flow mapping") "',' or '\x7d'"
    let token ← g.peek
    match token.kind with
    | .key =>
      g.drop.readAfter token .flowMappingValue [.value, .flowEntry, .flowMappingEnd]
        (·.readNode false false)
    | .flowMappingEnd => g.endCollection .mappingEnd token
    | _ => (g.pushLater .flowMappingEmptyValue).readNode false false

/-- Reads a value of a flow mapping. -/
def readFlowMappingValue (g : Grammar) : GrammarStep := do
  let token ← g.peek
  match token.kind with
  | .value =>
    g.drop.readAfter token .flowMappingKey [.flowEntry, .flowMappingEnd] (·.readNode false false)
  | _ => (g.expect .flowMappingKey).emptyScalar token.start

/-- The next event. -/
def step (g : Grammar) : GrammarStep := do
  let token ← g.peek
  let entered := g.drop.enter token.start
  match g.expected with
  | .streamStart => return (⟨.streamStart, token.start⟩, g.drop.expect .implicitDocument)
  | .implicitDocument =>
    match token.kind with
    | .directive _ | .documentStart | .streamEnd => g.readDocumentStart
    | _ =>
      let g := { g with handles := standardHandles }
      return (⟨.documentStart, token.start⟩, (g.pushLater .documentEnd).expect .blockNode)
  | .document => g.readDocumentStart
  | .documentEnd =>
    let after := if token.kind == .documentEnd then g.drop else g
    return (⟨.documentEnd, token.start⟩, after.expect .document)
  | .documentContent =>
    match token.kind with
    | .directive _ | .documentStart | .documentEnd | .streamEnd =>
      g.resume.emptyScalar token.start
    | _ => g.readNode true false
  | .blockNode => g.readNode true false
  | .blockSequenceFirst => entered.readBlockSequenceEntry
  | .blockSequenceEntry => g.readBlockSequenceEntry
  | .indentlessEntry => g.readIndentlessEntry
  | .blockMappingFirst => entered.readBlockMappingKey
  | .blockMappingKey => g.readBlockMappingKey
  | .blockMappingValue => g.readBlockMappingValue
  | .flowSequenceFirst => entered.readFlowSequenceEntry true
  | .flowSequenceEntry => g.readFlowSequenceEntry false
  | .pairKey => g.readPairKey
  | .pairValue => g.readPairValue
  | .pairEnd => g.readPairEnd
  | .flowMappingFirst => entered.readFlowMappingKey true
  | .flowMappingKey => g.readFlowMappingKey false
  | .flowMappingValue => g.readFlowMappingValue
  | .flowMappingEmptyValue => (g.expect .flowMappingKey).emptyScalar token.start
  | .nothing => return (⟨.streamEnd, token.start⟩, g)

end Grammar

/-- The events of a text, and the error that stops them, if one does. -/
structure Events where
  events : List Event
  ending : Option FormError

/-- The events after those in `done`, which stand in reverse. -/
def Grammar.run (done : List Event) : Nat → Grammar → Events
  | 0, _ => ⟨done.reverse, none⟩
  | fuel + 1, g =>
    if g.expected == .nothing then ⟨done.reverse, none⟩
    else
      match g.step with
      | .error e => ⟨done.reverse, some e⟩
      | .ok (event, g) => run (event :: done) fuel g

/-- The events of a text. -/
def Events.ofText (s : String) : Events :=
  let tokens := Tokens.ofText s
  let g : Grammar := { tokens := tokens.tokens, ending := tokens.ending }
  g.run [] (8 * tokens.tokens.length + 32)

end Baseline.Yaml
