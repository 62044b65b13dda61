import Baseline.Number.Quantity
import Baseline.Number.Shortest
import Baseline.Yaml.Scalar

/-!
# Values of documents

The value of a document is a graph: scalars stand for themselves, and each list, map and set has a
cell of its own, to which every alias of it refers. A collection may hold itself.
-/

namespace Baseline.Yaml

/-- A scalar, a pair, or a reference to the cell of a collection. -/
inductive Value where
  | null
  | bool (b : Bool)
  | int (n : Int)
  | float (x : Binary64)
  | text (s : String)
  | bytes (bytes : List UInt8)
  | moment (m : Moment)
  | pair (key value : Value)
  | cell (number : Nat)
  deriving DecidableEq, Repr

instance : Inhabited Value := ⟨.null⟩

/-- The content of a collection. -/
inductive Cell where
  | list (items : List Value)
  | map (entries : List (Value × Value))
  | set (items : List Value)
  deriving Repr

instance : Inhabited Cell := ⟨.list []⟩

namespace Value

/-- The residue by which a set has a place for a number among `count` places: that of the number
modulo a prime, with minus two in place of minus one. -/
def residue? (count : Nat) : Value → Option Int
  | .bool b => some (if b then 1 else 0)
  | .int n =>
    let rest := n.tmod (Number.twoTo 61 - 1)
    some ((if rest == -1 then -2 else rest) % count)
  | _ => none

/-- The number of places of a set: a power of two, eight or else more than twice its size. -/
def placesFor (size : Nat) : Nat :=
  if size < 5 then 8 else Number.twoTo ((2 * size).log2 + 1)

/-- The items of a set in the order in which they are shown: numbers by their residues, anything
else as it came. -/
def shownOrder (items : List Value) : List Value :=
  match items.mapM (residue? (placesFor items.length)) with
  | none => items
  | some residues =>
    ((items.zip residues).mergeSort fun a b => decide (a.2 ≤ b.2)).map Prod.fst

/-- The number that a value counts as when keys are compared. -/
def quantity? : Value → Option Quantity
  | .bool b => some (.int (if b then 1 else 0))
  | .int n => some (.int n)
  | .float x => some (.float x)
  | _ => none

/-- Whether two values are one key; numbers of different kinds are, if they are equal. -/
def sameKey (a b : Value) : Bool :=
  match a, b with
  | .moment m, .moment n => m.same n
  | a, b =>
    match a.quantity?, b.quantity? with
    | some x, some y => a == b || !(x.less y || y.less x || isNan a || isNan b)
    | _, _ => a == b
where
  /-- Whether a value is not a number. -/
  isNan : Value → Bool
    | .float .nan => true
    | _ => false

/-- Whether a value may be a key. -/
def isHashable : Value → Bool
  | .cell _ => false
  | _ => true

/-- Entries with one put: in its key's place if it has one, else at the end. -/
def putEntry (entries : List (Value × Value)) (key value : Value) : List (Value × Value) :=
  if entries.any fun (old, _) => old.sameKey key then
    entries.map fun (old, kept) => if old.sameKey key then (old, value) else (old, kept)
  else entries ++ [(key, value)]

end Value

/-- The value of a document with its cells. -/
structure Graph where
  cells : List Cell
  root : Value

namespace Graph

/-- The content of a cell. -/
def content (graph : Graph) (number : Nat) : Cell := graph.cells[number]?.getD default

/-- The items of a value that is a list. -/
def list? (graph : Graph) : Value → Option (List Value)
  | .cell number =>
    match graph.content number with
    | .list items => some items
    | _ => none
  | _ => none

/-- The entries of a value that is a map. -/
def map? (graph : Graph) : Value → Option (List (Value × Value))
  | .cell number =>
    match graph.content number with
    | .map entries => some entries
    | _ => none
  | _ => none

/-- The value of a text key among entries. -/
def field? (entries : List (Value × Value)) (key : String) : Option Value :=
  (entries.find? fun (k, _) => k == .text key).map Prod.snd

/-- Whether a value counts as something. -/
def isTruthy (graph : Graph) : Value → Bool
  | .null => false
  | .bool b => b
  | .int n => n != 0
  | .float x => !x.isZero
  | .text s => s != ""
  | .bytes bytes => !bytes.isEmpty
  | .moment _ => true
  | .pair _ _ => true
  | .cell number =>
    match graph.content number with
    | .list items => !items.isEmpty
    | .map entries => !entries.isEmpty
    | .set items => !items.isEmpty

mutual

/-- A value as it is shown, where `shown` are the cells that it stands in; a cell that stands in
itself is shown by dots. There is none if an integer in it is too long to be shown. -/
def displayIn? (graph : Graph) (shown : List Nat) : Nat → Value → Option String
  | _, .null => some "None"
  | _, .bool b => some (if b then "True" else "False")
  | _, .int n => Number.showInteger? n
  | _, .float x => some x.text
  | _, .text s => some (Text.quoted s)
  | _, .bytes bytes => some ("b" ++ Text.quotedBytes bytes)
  | _, .moment m => some m.display
  | 0, _ => some "..."
  | fuel + 1, .pair key value => do
    let key ← displayIn? graph shown fuel key
    let value ← displayIn? graph shown fuel value
    return "(" ++ key ++ ", " ++ value ++ ")"
  | fuel + 1, .cell number =>
    match graph.content number, shown.contains number with
    | .list _, true => some "[...]"
    | .list items, false => do
      let items ← displayAll? graph (number :: shown) fuel items
      return "[" ++ ", ".intercalate items ++ "]"
    | .map _, true => some "\x7b...\x7d"
    | .map entries, false => do
      let entries ← displayEntries? graph (number :: shown) fuel entries
      return "\x7b" ++ ", ".intercalate entries ++ "\x7d"
    | .set [], _ => some "set()"
    | .set items, _ => do
      let items ← displayAll? graph (number :: shown) fuel (Value.shownOrder items)
      return "\x7b" ++ ", ".intercalate items ++ "\x7d"

/-- Values as they are shown. -/
def displayAll? (graph : Graph) (shown : List Nat) : Nat → List Value → Option (List String)
  | 0, _ => some []
  | _, [] => some []
  | fuel + 1, item :: items => do
    let first ← displayIn? graph shown fuel item
    let rest ← displayAll? graph shown fuel items
    return first :: rest

/-- Entries of a map as they are shown. -/
def displayEntries? (graph : Graph) (shown : List Nat) :
    Nat → List (Value × Value) → Option (List String)
  | 0, _ => some []
  | _, [] => some []
  | fuel + 1, (key, value) :: entries => do
    let key ← displayIn? graph shown fuel key
    let value ← displayIn? graph shown fuel value
    let rest ← displayEntries? graph shown fuel entries
    return (key ++ ": " ++ value) :: rest

end

/-- The number of values that stand in a cell. -/
def cellSize : Cell → Nat
  | .list items => items.length
  | .map entries => entries.length
  | .set items => items.length

/-- The number of values that stand in cells. -/
def size (graph : Graph) : Nat :=
  graph.cells.foldl (fun count cell => count + cellSize cell) 0

/-- A value as it is shown, unless an integer in it is too long to be shown. -/
def display? (graph : Graph) (value : Value) : Option String :=
  displayIn? graph [] (3 * graph.size + 3 * graph.cells.length + 8) value

end Graph

end Baseline.Yaml
