import Baseline.Path
import Baseline.Report.Basic

/-!
# Reading payloads as reports

An analyzer may reply with payload maps in place of built values. Their fields are read leniently,
each by a rule of its own, and under two spellings where the wire format has two; only a few shapes
are refused.
-/

namespace Baseline

/-- Why a payload is refused. -/
inductive CoercionError where
  /-- The whole answer has a kind that is not a map. -/
  | output (kind : String)
  /-- The `files` of an answer are no map. -/
  | files
  /-- The report of one file has a kind that is not a map. -/
  | fileReport (kind : String)
  /-- A value of this kind stands where items are listed. -/
  | notIterable (kind : String)
  /-- A value of this kind stands where a hashable one is looked up. -/
  | notHashable (kind : String)
  /-- A value of this kind has no fields to look up. -/
  | noMembers (kind : String)
  /-- A text was asked for a field. -/
  | textField
  /-- A list was asked for a field. -/
  | listField
  /-- A value of this kind cannot give a field that may be missing. -/
  | noLookup (kind : String)
  /-- A number that has no integer part stands where an integer is read. -/
  | notIntegral (reason : Binary64.NotIntegral)
  /-- An integer that has too many digits to be shown stands in what is read as a text. -/
  | longInteger
  deriving DecidableEq, Repr

/-- The wording of a refusal. -/
def CoercionError.message : CoercionError → String
  | .output kind => "Unsupported analysis output: " ++ kind
  | .files => "Analysis output 'files' must be a mapping"
  | .fileReport kind => "Unsupported analysis result payload: " ++ kind
  | .notIterable kind => s!"'{kind}' object is not iterable"
  | .notHashable kind => s!"unhashable type: '{kind}'"
  | .noMembers kind => s!"argument of type '{kind}' is not iterable"
  | .textField => "string indices must be integers, not 'str'"
  | .listField => "list indices must be integers or slices, not str"
  | .noLookup kind => s!"'{kind}' object has no attribute 'get'"
  | .notIntegral .infinity => "cannot convert float infinity to integer"
  | .notIntegral .nan => "cannot convert float NaN to integer"
  | .longInteger => Number.unshowableMessage

/-- What an analyzer replies: a value that it has built, a payload that describes one, or a value of
some other kind. -/
inductive Reply (α : Type) where
  | built (value : α)
  | described (payload : Payload)
  | foreign (kind : String)

namespace Payload

/-- A payload read as an optional integer; a fraction is cut off. -/
def toInt? : Payload → Except CoercionError (Option Int)
  | .int n => .ok (some n)
  | .float x =>
    match x.truncate with
    | .ok n => .ok (some n)
    | .error reason => .error (.notIntegral reason)
  | _ => .ok none

/-- The text of a payload, unless it cannot be shown. -/
def toText (value : Payload) : Except CoercionError String :=
  if value.isShowable then .ok value.plainText else .error .longInteger

/-- A payload read as an optional text. -/
def toText? : Payload → Except CoercionError (Option String)
  | .null => .ok none
  | value => value.toText.map some

/-- The message among the entries of a map, empty when they have none. -/
def messageOf (entries : List (String × Payload)) : Except CoercionError String :=
  (field? entries "message").elim (.ok "") toText

/-- The items of a payload as an optional list: of a text its characters, of a map its keys. -/
def items : Payload → Except CoercionError (List Payload)
  | .list items => .ok items
  | .text s => .ok (s.toList.map fun c => .text (String.ofList [c]))
  | .map entries => .ok (entries.map fun (key, _) => .text key)
  | value => if value.isTruthy then .error (.notIterable value.kindName) else .ok []

/-- The language that a payload names. -/
def toLanguage? : Payload → Except CoercionError (Option Language)
  | .text s => .ok (Language.ofTag? s)
  | .list items => .error (.notHashable (Payload.list items).kindName)
  | .map entries => .error (.notHashable (Payload.map entries).kindName)
  | .diagnostic d => .error (.notHashable (Payload.diagnostic d).kindName)
  | .parsingError e => .error (.notHashable (Payload.parsingError e).kindName)
  | _ => .ok none

/-- Why a payload that is no map cannot be read as one whose fields are looked up, those in `keys`
first. -/
def notMap (keys : List String) : Payload → CoercionError
  | .text s =>
    if keys.any fun key => (Text.findPart key.toList s.toList).isSome then .textField
    else .noLookup (Payload.text s).kindName
  | .list items =>
    let holdsKey := keys.any fun key => items.any fun item =>
      match item with
      | .text s => s == key
      | _ => false
    if holdsKey then .listField else .noLookup (Payload.list items).kindName
  | value => .noMembers value.kindName

end Payload

namespace DiagnosticOf

/-- The spellings of the rule of a finding. -/
def ruleKeys : List String := ["ruleId", "rule_id"]

/-- The spellings of the secondary locations of a finding. -/
def secondaryKeys : List String := ["secondaryLocations", "secondary_locations"]

/-- The spellings of the last line of a finding. -/
def endLineKeys : List String := ["endLine", "end_line"]

/-- The spellings of the last column of a finding. -/
def endColumnKeys : List String := ["endColumn", "end_column"]

/-- The fields that are a finding's own. -/
def ownKeys : List String :=
  ruleKeys ++ ["line", "column", "message"] ++ endLineKeys ++ endColumnKeys ++ secondaryKeys

/-- The finding that the entries of a map describe. -/
def ofEntries (entries : List (String × Payload)) : Except CoercionError Diagnostic := do
  let ruleId ← (Payload.firstField entries ruleKeys).toText?
  let line ← (Payload.firstField entries ["line"]).toInt?
  let column ← (Payload.firstField entries ["column"]).toInt?
  let message ← Payload.messageOf entries
  let endLine ← (Payload.firstField entries endLineKeys).toInt?
  let endColumn ← (Payload.firstField entries endColumnKeys).toInt?
  return {
    ruleId := ruleId.getD ""
    line
    column := column.getD 0
    message := .text message
    endLine
    endColumn
    secondary := match Payload.firstField entries secondaryKeys with
      | .list items => items
      | _ => []
    extra := entries.filter fun (key, _) => !ownKeys.contains key }

/-- The finding that a payload describes. -/
def ofPayload : Payload → Except CoercionError Diagnostic
  | .map entries => ofEntries entries
  | value => .error (value.notMap (ruleKeys ++ secondaryKeys))

end DiagnosticOf

namespace ParsingError

/-- The parsing error that the entries of a map describe. -/
def ofEntries (entries : List (String × Payload)) : Except CoercionError ParsingError := do
  let message ← Payload.messageOf entries
  let line ← (Payload.firstField entries ["line"]).toInt?
  let code ← (Payload.firstField entries ["code"]).toText?
  return { message, line, code }

/-- The parsing error that a payload describes. -/
def ofPayload : Payload → Except CoercionError ParsingError
  | .map entries => ofEntries entries
  | value => .error (.noLookup value.kindName)

end ParsingError

namespace FileReport

/-- The parsing error that a field of a report holds, if it holds one. -/
def readParsingError : Payload → Except CoercionError (Option ParsingError)
  | .parsingError e => .ok (some e)
  | .map entries => (ParsingError.ofEntries entries).map some
  | _ => .ok none

/-- The findings among the items of a report; other items are passed over. -/
def readIssues : List Payload → Except CoercionError (List Diagnostic)
  | [] => .ok []
  | .diagnostic d :: rest => do return d :: (← readIssues rest)
  | .map entries :: rest => do
    let d ← DiagnosticOf.ofEntries entries
    return d :: (← readIssues rest)
  | _ :: rest => readIssues rest

/-- The report that the entries of a map describe. -/
def ofEntries (entries : List (String × Payload)) : Except CoercionError FileReport := do
  let parsingError ←
    readParsingError (Payload.firstField entries ["parsingError", "parsing_error"])
  let items ← (Payload.firstField entries ["issues"]).items
  let issues ← readIssues items
  let language ← (Payload.firstField entries ["language"]).toLanguage?
  return { issues, parsingError, language }

/-- The report that a payload describes. -/
def ofPayload : Payload → Except CoercionError FileReport
  | .map entries => ofEntries entries
  | value => .error (.fileReport value.kindName)

/-- The report that a reply gives. -/
def ofReply : Reply FileReport → Except CoercionError FileReport
  | .built report => .ok report
  | .described payload => ofPayload payload
  | .foreign kind => .error (.fileReport kind)

end FileReport

namespace Report

/-- The reports of files by their paths, put in order under forward slashes. -/
def ofFileEntries (report : Report) : List (String × Payload) → Except CoercionError Report
  | [] => .ok report
  | (path, value) :: rest => do
    let file ← FileReport.ofPayload value
    ofFileEntries (report.put (unixPath path) file) rest

/-- The report that an answer describes: the map in its `files`, or the answer itself. -/
def ofPayload : Payload → Except CoercionError Report
  | .map entries =>
    match (Payload.field? entries "files").getD (.map entries) with
    | .map files => ofFileEntries ∅ files
    | _ => .error .files
  | value => .error (.output value.kindName)

/-- The report that a reply gives. -/
def ofReply : Reply Report → Except CoercionError Report
  | .built report => .ok report
  | .described payload => ofPayload payload
  | .foreign kind => .error (.output kind)

end Report

end Baseline
