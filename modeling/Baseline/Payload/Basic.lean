import Baseline.Number.Reading
import Baseline.Number.Shortest
import Baseline.Text.Quoted

/-!
# Payloads

What an analyzer hands over: values as in a JSON text, in which diagnostics and parsing errors that
are already built may stand. A map keeps the order of its keys, which are all different.
-/

namespace Baseline

/-- One finding of an analyzer, with the fields that are not its own kept as they came. Its message
is a text unless a failure was declared with something else. -/
structure DiagnosticOf (α : Type) where
  ruleId : String
  line : Option Int
  column : Int
  message : α
  endLine : Option Int
  endColumn : Option Int
  secondary : List α
  extra : List (String × α)

/-- An error that an analyzer reports in place of findings. -/
structure ParsingError where
  message : String
  line : Option Int
  code : Option String
  deriving DecidableEq, Repr

/-- A value that an analyzer hands over. -/
inductive Payload where
  | null
  | bool (b : Bool)
  | int (n : Int)
  | float (x : Binary64)
  | text (s : String)
  | list (items : List Payload)
  | map (entries : List (String × Payload))
  | diagnostic (d : DiagnosticOf Payload)
  | parsingError (e : ParsingError)

/-- A finding whose further fields are payloads. -/
abbrev Diagnostic := DiagnosticOf Payload

instance : Inhabited Payload := ⟨.null⟩

namespace Payload

/-- The name of a payload's kind. -/
def kindName : Payload → String
  | .null => "NoneType"
  | .bool _ => "bool"
  | .int _ => "int"
  | .float _ => "float"
  | .text _ => "str"
  | .list _ => "list"
  | .map _ => "dict"
  | .diagnostic _ => "Diagnostic"
  | .parsingError _ => "ParsingError"

/-- Whether a payload counts as present where a list is optional. -/
def isTruthy : Payload → Bool
  | .null => false
  | .bool b => b
  | .int n => n != 0
  | .float x => !x.isZero
  | .text s => s != ""
  | .list items => !items.isEmpty
  | .map entries => !entries.isEmpty
  | .diagnostic _ => true
  | .parsingError _ => true

/-- The value of a key in the entries of a map. -/
def field? (entries : List (String × Payload)) (key : String) : Option Payload :=
  entries.lookup key

/-- The value of the first of the keys that the entries have, null when they have none. -/
def firstField (entries : List (String × Payload)) (keys : List String) : Payload :=
  (keys.findSome? (field? entries)).getD .null

/-- The entries with one put: in its key's place if it has one, else at the end. -/
def putEntry (entries : List (String × Payload)) (entry : String × Payload) :
    List (String × Payload) :=
  if entries.any (·.1 == entry.1) then
    entries.map fun old => if old.1 == entry.1 then entry else old
  else entries ++ [entry]

/-- The map of entries whose keys may repeat: a repeated key keeps its first place and takes its
last value. -/
def ofEntries (entries : List (String × Payload)) : Payload :=
  .map (entries.foldl putEntry [])

end Payload

/-- An optional integer as it is shown. -/
def showOptional : Option Int → String
  | none => "None"
  | some n => toString n

/-- A parsing error as it is shown. -/
def ParsingError.display (e : ParsingError) : String :=
  "ParsingError(message=" ++ Text.quoted e.message ++ ", line=" ++ showOptional e.line ++
    ", code=" ++ (e.code.elim "None" Text.quoted) ++ ")"

namespace Payload

mutual

/-- A payload as it is shown, its texts quoted. -/
def display : Payload → String
  | .null => "None"
  | .bool b => if b then "True" else "False"
  | .int n => toString n
  | .float x => x.text
  | .text s => Text.quoted s
  | .list items => "[" ++ ", ".intercalate (displayItems items) ++ "]"
  | .map entries => "\x7b" ++ ", ".intercalate (displayEntries entries) ++ "\x7d"
  | .diagnostic d => displayDiagnostic d
  | .parsingError e => e.display

/-- The items of a list as they are shown. -/
def displayItems : List Payload → List String
  | [] => []
  | item :: items => display item :: displayItems items

/-- The entries of a map as they are shown. -/
def displayEntries : List (String × Payload) → List String
  | [] => []
  | (key, value) :: entries => (Text.quoted key ++ ": " ++ display value) :: displayEntries entries

/-- A diagnostic as it is shown. -/
def displayDiagnostic : DiagnosticOf Payload → String
  | ⟨ruleId, line, column, message, endLine, endColumn, secondary, extra⟩ =>
    "Diagnostic(rule_id=" ++ Text.quoted ruleId ++ ", line=" ++ showOptional line ++ ", column=" ++
      toString column ++ ", message=" ++ display message ++ ", end_line=" ++
      showOptional endLine ++ ", end_column=" ++ showOptional endColumn ++
      ", secondary_locations=[" ++ ", ".intercalate (displayItems secondary) ++ "], extra=\x7b" ++
      ", ".intercalate (displayEntries extra) ++ "\x7d)"

end

/-- The text of a payload: a text as it is, anything else as it is shown. -/
def plainText : Payload → String
  | .text s => s
  | value => value.display

mutual

/-- The integers that stand in a payload. -/
def integers : Payload → List Int
  | .int n => [n]
  | .list items => integersOfItems items
  | .map entries => integersOfEntries entries
  | .diagnostic d => integersOfDiagnostic d
  | .parsingError e => e.line.toList
  | _ => []

/-- The integers that stand in the items of a list. -/
def integersOfItems : List Payload → List Int
  | [] => []
  | item :: items => integers item ++ integersOfItems items

/-- The integers that stand in the entries of a map. -/
def integersOfEntries : List (String × Payload) → List Int
  | [] => []
  | (_, value) :: entries => integers value ++ integersOfEntries entries

/-- The integers that stand in a diagnostic. -/
def integersOfDiagnostic : DiagnosticOf Payload → List Int
  | ⟨_, line, column, message, endLine, endColumn, secondary, extra⟩ =>
    line.toList ++ column :: integers message ++ endLine.toList ++ endColumn.toList ++
      integersOfItems secondary ++ integersOfEntries extra

end

/-- Whether a payload can be shown: no integer in it has too many digits. -/
def isShowable (value : Payload) : Bool := value.integers.all Number.isShowable

end Payload

end Baseline
