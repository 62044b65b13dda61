import Baseline.Analyzer.Basic
import Baseline.FileSystem.Access
import Baseline.Json.Reading

/-!
# Rule lists

The rules that analyzers are told to apply come from a JSON file: a list of objects, each with a key
that is a text. Everything else about a rule is passed on as it stands.
-/

namespace Baseline.RuleList

/-- Why a rule list is refused or cannot be read. -/
inductive Error where
  | unreadable (path : Path) (error : FileError)
  | notJson (path : Path) (problem : Json.Problem) (position : Nat) (text : String)
  | notList (path : Path)
  | invalid (path : Path) (entry : Payload)
  /-- Bytes that are no text. -/
  | encoding (malformed : Text.Utf8.Malformed)
  /-- JSON with a number that cannot be read, or too deep. -/
  | json (error : Json.Error) (text : String)
  /-- A path that names nothing. -/
  | badPath (error : FileError)

/-- Whether an error is reported as one of the configuration. -/
def Error.isReported : Error → Bool
  | .encoding _ => false
  | .json _ _ => false
  | .badPath _ => false
  | _ => true

/-- The wording of an error. -/
def Error.message : Error → String
  | .unreadable path error => s!"Failed to read rules from {path.text}: " ++ error.message
  | .notJson path problem position text =>
    s!"Failed to read rules from {path.text}: " ++ Json.describe problem position text
  | .notList path => path.text ++ " must contain a list of rule configurations"
  | .invalid path value => s!"Invalid rule entry in {path.text}: " ++ value.display
  | .encoding malformed => malformed.message
  | .json error text => error.message text
  | .badPath error => error.message

/-- A payload as a list: null is empty, and a value that is no list is its only item. -/
def listOf : Payload → List Payload
  | .null => []
  | .list items => items
  | value => [value]

/-- Whether a payload is a text, a number or a truth value. -/
def isSimple : Payload → Bool
  | .text _ => true
  | .int _ => true
  | .float _ => true
  | .bool _ => true
  | _ => false

/-- A payload as a list of texts; items that have no simple text are left out. -/
def textsOf : Payload → List String
  | .text s => [s]
  | .list items => (items.filter isSimple).map Payload.plainText
  | _ => []

/-- The rule that an entry describes. -/
def ruleOf? : Payload → Option RuleSetting
  | .map entries =>
    match Payload.field? entries "key" with
    | some (.text key) =>
      some {
        key
        configurations := listOf (Payload.firstField entries ["configurations"])
        fileTypes := textsOf (Payload.firstField entries ["fileTypeTarget", "file_type_target"]) }
    | _ => none
  | _ => none

/-- The rules that entries describe. -/
def rulesOf (path : Path) : List Payload → Except Error (List RuleSetting)
  | [] => .ok []
  | entry :: rest =>
    match ruleOf? entry with
    | none => .error (.invalid path entry)
    | some rule => (rulesOf path rest).map (rule :: ·)

/-- The rules of a text. -/
def parse (path : Path) (text : String) : Except Error (List RuleSetting) :=
  match Json.read text with
  | .error (.malformed problem position) => .error (.notJson path problem position text)
  | .error e => .error (.json e text)
  | .ok (.list entries) => rulesOf path entries
  | .ok _ => .error (.notList path)

/-- The rules of a file. -/
def load (fs : FileSystem) (path : Path) : Except Error (List RuleSetting) :=
  match fs.readText path with
  | .error (.file .nullCharacter) => .error (.badPath .nullCharacter)
  | .error (.file e) => .error (.unreadable path e)
  | .error (.encoding malformed) => .error (.encoding malformed)
  | .ok text => parse path text

end Baseline.RuleList
