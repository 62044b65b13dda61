import Baseline.Yaml.Node
import Baseline.Yaml.Value

/-!
# From nodes to values

Every node of a document has one value, whose kind its tag decides. A collection gets its cell when
it is first met and its content later, in the order in which collections were met; that is how a
collection can hold itself. Before a mapping gets its content, the mappings that it merges are put
before its own entries.
-/

namespace Baseline.Yaml

/-- Why a text has no value: its form, the tags of its nodes, or a scalar. -/
inductive Error where
  | form (error : FormError)
  | tag (problem : MarkedProblem)
  | scalar (error : ScalarError)
  /-- A mapping that, by its key `=`, stands for itself, so that its text is sought without end. -/
  | endless
  deriving DecidableEq, Repr

namespace Error

/-- Whether an error is a diagnosis of the text, rather than a value that cannot be made. -/
def isDiagnosis : Error → Bool
  | .form (.codePoint _) => false
  | .form _ => true
  | .tag _ => true
  | .scalar _ => false
  | .endless => false

/-- The problem and mark of an error, if it has them. -/
def marked? : Error → Option MarkedProblem
  | .form (.marked problem) => some problem
  | .tag problem => some problem
  | _ => none

/-- The wording of an error in a text. -/
def message (error : Error) (s : String) : String :=
  match error with
  | .form (.unprintable c index) => unprintableMessage c index
  | .form (.codePoint code) => codePointMessage code
  | .form (.marked problem) => problem.message s.toList
  | .tag problem => problem.message s.toList
  | .scalar error => error.message
  | .endless => "maximum recursion depth exceeded"

end Error

/-- The kinds of collections. -/
inductive CollectionKind where
  | sequence
  | mapping
  | set
  | orderedMap
  | pairs
  deriving DecidableEq, Repr

/-- A collection whose cell has no content yet. -/
structure Pending where
  kind : CollectionKind
  node : Nat
  cell : Nat
  deriving DecidableEq, Repr

/-- The nodes of a document, the number of the entries of its mappings, the values of those nodes
that were met, the cells, and the collections whose cells have no content yet, the last one met
first. -/
structure Construction where
  nodes : Array Node
  entryCount : Nat
  values : Array (Option Value)
  cells : Array Cell := #[]
  queue : List Pending := []

namespace Construction

/-- A node by its number. -/
def node (c : Construction) (number : Nat) : Node := c.nodes[number]?.getD default

/-- A problem with a node. -/
def fail {α : Type} (problem : Problem) (mark : Mark) : Except Error α :=
  .error (.tag (.plain problem mark))

/-- A problem with a node, met while making a collection that starts at a mark. -/
def failIn {α : Type} (what : String) (start : Mark) (problem : Problem) (mark : Mark) :
    Except Error α :=
  .error (.tag (.during (.constructing what) start problem mark))

/-- The text of a node. A mapping with the key `=` stands for the value of that key; a chain of more
values than there are nodes comes back to where it was. -/
def textOf (c : Construction) : Nat → Nat → Except Error String
  | 0, _ => .error .endless
  | fuel + 1, number =>
    let node := c.node number
    match node.kind with
    | .scalar text => .ok text
    | .sequence _ => fail (.wrongNode "a scalar node" node.kind.name) node.start
    | .mapping entries =>
      match entries.find? fun (key, _) => (c.node key).tag == Tag.value with
      | some (_, value) => c.textOf fuel value
      | none => fail (.wrongNode "a scalar node" node.kind.name) node.start

/-- The entries of a node that is a mapping. -/
def entriesOf (node : Node) : List (Nat × Nat) :=
  match node.kind with
  | .mapping entries => entries
  | _ => []

/-- The number of entries before the first key that merges. -/
def mergeIndex (nodes : Array Node) (entries : List (Nat × Nat)) : Nat :=
  (entries.takeWhile fun (key, _) => (nodes[key]?.getD default).tag != Tag.merge).length

/-- The nodes with keys `=` turned into texts. -/
def settleValueKeys (nodes : Array Node) (entries : List (Nat × Nat)) : Array Node :=
  entries.foldl (fun nodes (key, _) =>
    nodes.modify key fun node =>
      if node.tag == Tag.value then { node with tag := Tag.text } else node) nodes

/-- Puts the entries that a mapping merges before its own, from entry `index` on; `merged` are those
found so far. Each merge is taken out before what it names is looked at. -/
def flattenFrom (number : Nat) :
    Nat → Array Node → Nat → List (Nat × Nat) → Except Error (Array Node)
  | 0, nodes, _, _ => .ok nodes
  | fuel + 1, nodes, index, merged => do
    let node := nodes[number]?.getD default
    let entries := entriesOf node
    let ahead := entries.drop index
    let before := mergeIndex nodes ahead
    let nodes := settleValueKeys nodes (ahead.take before)
    match ahead[before]? with
    | none =>
      return nodes.modify number fun node => { node with kind := .mapping (merged ++ entries) }
    | some (_, source) =>
      let place := index + before
      let nodes := nodes.modify number fun node =>
        { node with kind := .mapping (entries.eraseIdx place) }
      let sourceNode := nodes[source]?.getD default
      match sourceNode.kind with
      | .mapping _ =>
        let nodes ← flattenFrom source fuel nodes 0 []
        let found := entriesOf (nodes[source]?.getD default)
        flattenFrom number fuel nodes place (merged ++ found)
      | .sequence items =>
        let (nodes, found) ← items.foldlM (fun (nodes, found) item => do
          let itemNode : Node := nodes[item]?.getD default
          match itemNode.kind with
          | .mapping _ =>
            let nodes ← flattenFrom item fuel nodes 0 []
            return (nodes, entriesOf (nodes[item]?.getD default) ++ found)
          | kind =>
            failIn "a mapping" node.start (.wrongNode "a mapping for merging" kind.name)
              itemNode.start) (nodes, [])
        flattenFrom number fuel nodes place (merged ++ found)
      | kind =>
        failIn "a mapping" node.start
          (.wrongNode "a mapping or list of mappings for merging" kind.name) sourceNode.start

/-- Puts the entries that a mapping merges before its own. -/
def flatten (c : Construction) (number : Nat) : Except Error Construction := do
  let nodes ← flattenFrom number (c.entryCount + 2) c.nodes 0 []
  return { c with nodes }

/-- The kind of collection of a tag. -/
def collectionKind? (tag : String) : Option CollectionKind :=
  [(Tag.sequence, .sequence), (Tag.mapping, .mapping), (Tag.set, .set),
    (Tag.orderedMap, .orderedMap), (Tag.pairs, .pairs)].lookup tag

/-- The content that a collection starts with. -/
def emptyCell : CollectionKind → Cell
  | .mapping => .map []
  | .set => .set []
  | _ => .list []

/-- The value of a scalar by its tag; `none` when the tag has none. -/
def scalarValue? (tag text : String) (mark : Mark) : Option (Except Error Value) :=
  let ofScalar {α : Type} (wrap : α → Value) (read : Except ScalarError α) : Except Error Value :=
    (read.map wrap).mapError .scalar
  if tag == Tag.null then some (.ok .null)
  else if tag == Tag.bool then some (ofScalar .bool (Scalar.readBool text))
  else if tag == Tag.int then some (ofScalar .int (Scalar.readInt text))
  else if tag == Tag.float then some (ofScalar .float (Scalar.readFloatingPoint text))
  else if tag == Tag.binary then
    some (((Scalar.readBinary text mark).map .bytes).mapError .form)
  else if tag == Tag.timestamp then some (ofScalar .moment (Scalar.readMoment text))
  else if tag == Tag.text then some (.ok (.text text))
  else none

/-- The tags of scalars. -/
def scalarTags : List String :=
  [Tag.null, Tag.bool, Tag.int, Tag.float, Tag.binary, Tag.timestamp, Tag.text]

/-- The value of a node that stands for a text. -/
def scalarOf (c : Construction) (number : Nat) : Except Error Value := do
  let node := c.node number
  let text ← c.textOf (c.nodes.size + 1) number
  match node.kind, node.tag == Tag.timestamp with
  | .mapping _, true => .error (.scalar .timestampOfMapping)
  | _, _ =>
    match scalarValue? node.tag text node.start with
    | some value => value
    | none => fail (.noConstructor node.tag) node.start

/-- The value of a node; a collection is queued for its content. -/
def value (c : Construction) (number : Nat) : Except Error (Value × Construction) := do
  match c.values[number]?.join with
  | some value => return (value, c)
  | none =>
    let node := c.node number
    match collectionKind? node.tag with
    | some kind =>
      let cell := c.cells.size
      let value := Value.cell cell
      return (value, { c with
        values := c.values.setIfInBounds number (some value)
        cells := c.cells.push (emptyCell kind)
        queue := ⟨kind, number, cell⟩ :: c.queue })
    | none =>
      if scalarTags.contains node.tag then
        let value ← c.scalarOf number
        return (value, { c with values := c.values.setIfInBounds number (some value) })
      else fail (.noConstructor node.tag) node.start

/-- The construction with the content of a cell. -/
def setCell (c : Construction) (number : Nat) (cell : Cell) : Construction :=
  { c with cells := c.cells.modify number fun _ => cell }

/-- The values of nodes in order. -/
def valuesOf (c : Construction) : List Nat → Except Error (List Value × Construction)
  | [] => .ok ([], c)
  | number :: rest => do
    let (first, c) ← c.value number
    let (values, c) ← c.valuesOf rest
    return (first :: values, c)

/-- The entries of a mapping that starts at a mark, put after those so far. -/
def entriesFrom (c : Construction) (start : Mark) (done : List (Value × Value)) :
    List (Nat × Nat) → Except Error (List (Value × Value) × Construction)
  | [] => .ok (done, c)
  | (keyNode, valueNode) :: rest => do
    let (key, c) ← c.value keyNode
    if !key.isHashable then
      failIn "a mapping" start .unhashableKey (c.node keyNode).start
    else
      let (value, c) ← c.value valueNode
      c.entriesFrom start (Value.putEntry done key value) rest

/-- The entries of a node that should be a mapping. -/
def mappingOf (c : Construction) (number : Nat) :
    Except Error (List (Value × Value) × Construction) := do
  match (c.node number).kind with
  | .mapping _ =>
    let c ← c.flatten number
    c.entriesFrom (c.node number).start [] (entriesOf (c.node number))
  | kind => fail (.wrongNode "a mapping node" kind.name) (c.node number).start

/-- The pairs that the items of a list of mappings with one entry stand for. -/
def pairsFrom (c : Construction) (what : String) (start : Mark) :
    List Nat → Except Error (List Value × Construction)
  | [] => .ok ([], c)
  | number :: rest => do
    let item := c.node number
    match item.kind with
    | .mapping [(keyNode, valueNode)] =>
      let (key, c) ← c.value keyNode
      let (value, c) ← c.value valueNode
      let (pairs, c) ← c.pairsFrom what start rest
      return (.pair key value :: pairs, c)
    | .mapping entries => failIn what start (.wrongSize entries.length) item.start
    | kind => failIn what start (.wrongNode "a mapping of length 1" kind.name) item.start

/-- The pairs of a node that should be a list of mappings with one entry. -/
def pairsOf (c : Construction) (what : String) (number : Nat) :
    Except Error (List Value × Construction) := do
  let node := c.node number
  match node.kind with
  | .sequence items => c.pairsFrom what node.start items
  | kind => failIn what node.start (.wrongNode "a sequence" kind.name) node.start

/-- Gives a cell its content. -/
def fill (c : Construction) (pending : Pending) : Except Error Construction := do
  match pending.kind with
  | .sequence =>
    match (c.node pending.node).kind with
    | .sequence items =>
      let (values, c) ← c.valuesOf items
      return c.setCell pending.cell (.list values)
    | kind => fail (.wrongNode "a sequence node" kind.name) (c.node pending.node).start
  | .mapping =>
    let (entries, c) ← c.mappingOf pending.node
    return c.setCell pending.cell (.map entries)
  | .set =>
    let (entries, c) ← c.mappingOf pending.node
    return c.setCell pending.cell (.set (entries.map Prod.fst))
  | .orderedMap =>
    let (pairs, c) ← c.pairsOf "an ordered map" pending.node
    return c.setCell pending.cell (.list pairs)
  | .pairs =>
    let (pairs, c) ← c.pairsOf "pairs" pending.node
    return c.setCell pending.cell (.list pairs)

/-- Gives the queued cells their contents in order, then those queued meanwhile. -/
def run : Nat → Construction → Except Error Construction
  | 0, c => .ok c
  | fuel + 1, c =>
    match c.queue with
    | [] => .ok c
    | queue => do
      let c ← queue.reverse.foldlM fill { c with queue := [] }
      run fuel c

end Construction

/-- The construction of a document before any of its nodes is met. -/
def Construction.ofDocument (document : Document) : Construction :=
  { nodes := document.nodes.toArray
    entryCount := document.nodes.foldl (fun count node =>
      count + (Construction.entriesOf node).length) 0
    values := Array.replicate document.nodes.length none }

/-- The value of a document. -/
def Document.value (document : Document) : Except Error Graph := do
  let (root, c) ← (Construction.ofDocument document).value document.root
  let c ← c.run (document.nodes.length + 1)
  return ⟨c.cells.toList, root⟩

/-- The value of the only document of a text; of no document, null. -/
def Graph.ofText (s : String) : Except Error Graph :=
  match Document.ofText s with
  | .error e => .error (.form e)
  | .ok none => .ok ⟨[], .null⟩
  | .ok (some document) => document.value

/-- Checks the values of documents in order, then the error after them. -/
def checkDocuments (ending : Option FormError) : List Document → Except Error Unit
  | [] =>
    match ending with
    | none => .ok ()
    | some e => .error (.form e)
  | document :: rest =>
    match document.value with
    | .error e => .error e
    | .ok _ => checkDocuments ending rest

/-- Checks that a text is a stream of documents that have values. -/
def check (s : String) : Except Error Unit :=
  let documents := Documents.ofText s
  checkDocuments documents.ending documents.documents

end Baseline.Yaml
