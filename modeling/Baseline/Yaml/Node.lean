import Baseline.Yaml.Event
import Baseline.Yaml.Tag

/-!
# Nodes of a document

A document is a graph of nodes: an alias stands for the node with its anchor, which may be one that
the alias is part of. Nodes are numbered in the order in which they start.
-/

namespace Baseline.Yaml

/-- What a node holds: a text, the numbers of its items, or those of its keys and values. -/
inductive NodeKind where
  | scalar (text : String)
  | sequence (items : List Nat)
  | mapping (entries : List (Nat × Nat))
  deriving DecidableEq, Repr

/-- The name of a kind of node in messages. -/
def NodeKind.name : NodeKind → String
  | .scalar _ => "scalar"
  | .sequence _ => "sequence"
  | .mapping _ => "mapping"

/-- A node with its full tag and the mark of its start. -/
structure Node where
  kind : NodeKind
  tag : String
  start : Mark
  deriving DecidableEq, Repr

instance : Inhabited Node := ⟨⟨.scalar "", Tag.null, .start⟩⟩

/-- The nodes of a document by their numbers, and the number of its root. -/
structure Document where
  nodes : List Node
  root : Nat
  deriving DecidableEq, Repr

/-- A collection whose end has not been seen: its number, and the key whose value comes next. -/
structure OpenNode where
  number : Nat
  key : Option Nat

/-- A document of which a part has been seen: its nodes in reverse, the numbers of its anchors, the
collections that are open, and its root once that is complete. -/
structure Composition where
  nodes : Array Node := #[]
  anchors : List (String × Nat) := []
  stack : List OpenNode := []
  root : Option Nat := none

namespace Composition

/-- The tag of a node, or the standard one. -/
def tagOr (tag : Option String) (standard : String) : String :=
  match tag with
  | none => standard
  | some "!" => standard
  | some tag => tag

/-- The composition with one more node, and the number of the node. -/
def add (c : Composition) (node : Node) (anchor : Option String) : Composition × Nat :=
  let number := c.nodes.size
  ({ c with
      nodes := c.nodes.push node
      anchors := match anchor with
        | none => c.anchors
        | some name => (name, number) :: c.anchors }, number)

/-- A node with an item or entry more. While a collection is open the last one stands first. -/
def grown (node : Node) (key : Option Nat) (child : Nat) : Node :=
  match node.kind, key with
  | .sequence items, _ => { node with kind := .sequence (child :: items) }
  | .mapping entries, some key => { node with kind := .mapping ((key, child) :: entries) }
  | _, _ => node

/-- A node with its items or entries in order. -/
def closed (node : Node) : Node :=
  match node.kind with
  | .scalar _ => node
  | .sequence items => { node with kind := .sequence items.reverse }
  | .mapping entries => { node with kind := .mapping entries.reverse }

/-- Whether a node is a mapping. -/
def isMapping (node : Node) : Bool :=
  match node.kind with
  | .mapping _ => true
  | _ => false

/-- The composition after a node is complete: it belongs to the innermost open collection, or is the
root. -/
def complete (c : Composition) (child : Nat) : Composition :=
  match c.stack with
  | [] => { c with root := some child }
  | top :: rest =>
    let parent := c.nodes[top.number]?.getD default
    if isMapping parent && top.key.isNone then
      { c with stack := ⟨top.number, some child⟩ :: rest }
    else
      { c with
        nodes := c.nodes.modify top.number fun node => grown node top.key child
        stack := ⟨top.number, none⟩ :: rest }

/-- The composition inside a new collection. -/
def openCollection (c : Composition) (node : Node) (anchor : Option String) : Composition :=
  let (c, number) := c.add node anchor
  { c with stack := ⟨number, none⟩ :: c.stack }

/-- The composition after the end of the innermost open collection. -/
def closeCollection (c : Composition) : Composition :=
  match c.stack with
  | [] => c
  | top :: rest =>
    { c with nodes := c.nodes.modify top.number closed, stack := rest }.complete top.number

/-- Checks that an anchor is new. -/
def checkAnchor (c : Composition) (anchor : Option String) (mark : Mark) : Except FormError Unit :=
  match anchor.bind fun name => (c.anchors.lookup name).map fun number => (name, number) with
  | none => .ok ()
  | some (name, number) =>
    failDuring (.repeatingAnchor name) (c.nodes[number]?.getD default).start .secondOccurrence mark

/-- The composition after an event within a document. -/
def step (c : Composition) (event : Event) : Except FormError Composition := do
  match event.kind with
  | .alias name =>
    match c.anchors.lookup name with
    | some number => return c.complete number
    | none => failAt (.undefinedAlias name) event.start
  | .scalar anchor tag untagged text =>
    c.checkAnchor anchor event.start
    let tag := tagOr tag (if untagged then Tag.ofPlain text else Tag.text)
    let (c, number) := c.add ⟨.scalar text, tag, event.start⟩ anchor
    return c.complete number
  | .sequenceStart anchor tag =>
    c.checkAnchor anchor event.start
    return c.openCollection ⟨.sequence [], tagOr tag Tag.sequence, event.start⟩ anchor
  | .mappingStart anchor tag =>
    c.checkAnchor anchor event.start
    return c.openCollection ⟨.mapping [], tagOr tag Tag.mapping, event.start⟩ anchor
  | .sequenceEnd | .mappingEnd => return c.closeCollection
  | _ => return c

/-- The document up to its end, and the events after it; `ending` is the error after the events. -/
def run (ending : FormError) (c : Composition) :
    List Event → Except FormError (Document × List Event)
  | [] => .error ending
  | event :: rest =>
    if event.kind == .documentEnd then .ok (⟨c.nodes.toList, c.root.getD 0⟩, rest)
    else
      match c.step event with
      | .error e => .error e
      | .ok c => run ending c rest

end Composition

/-- The error of a text that ends within a document, which no text does. -/
def unexpectedEnd : FormError := .marked (.plain .endOfStream .start)

/-- What comes next in a text after the events that were read. -/
inductive Upcoming where
  | document (start : Mark) (events : List Event)
  | finished
  | failed (error : FormError)

/-- What the next events are, those of stream starts passed over. -/
def upcoming (ending : Option FormError) : List Event → Upcoming
  | [] => (ending.map Upcoming.failed).getD .finished
  | event :: rest =>
    match event.kind with
    | .streamStart => upcoming ending rest
    | .streamEnd => .finished
    | _ => .document event.start rest

/-- The only document of a text, if there is one. -/
def Document.ofText (s : String) : Except FormError (Option Document) :=
  let events := Events.ofText s
  match upcoming events.ending events.events with
  | .finished => .ok none
  | .failed e => .error e
  | .document _ rest =>
    match Composition.run (events.ending.getD unexpectedEnd) {} rest with
    | .error e => .error e
    | .ok (document, rest) =>
      match upcoming events.ending rest with
      | .finished => .ok (some document)
      | .failed e => .error e
      | .document start _ =>
        let root := (document.nodes[document.root]?.getD default).start
        failDuring .expectingOneDocument root .secondDocument start

/-- The documents of a text up to the error that stops them, if one does. -/
structure Documents where
  documents : List Document
  ending : Option FormError

/-- The documents among events, after those in `done`, which stand in reverse. -/
def documentsFrom (ending : Option FormError) (done : List Document) :
    Nat → List Event → Documents
  | 0, _ => ⟨done.reverse, none⟩
  | fuel + 1, events =>
    match upcoming ending events with
    | .finished => ⟨done.reverse, none⟩
    | .failed e => ⟨done.reverse, some e⟩
    | .document _ rest =>
      match Composition.run (ending.getD unexpectedEnd) {} rest with
      | .error e => ⟨done.reverse, some e⟩
      | .ok (document, rest) => documentsFrom ending (document :: done) fuel rest

/-- The documents of a text. -/
def Documents.ofText (s : String) : Documents :=
  let events := Events.ofText s
  documentsFrom events.ending [] (events.events.length + 1) events.events

end Baseline.Yaml
