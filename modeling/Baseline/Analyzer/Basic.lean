import Baseline.Report.Merge
import Baseline.Text.Blank
import Baseline.Yaml.Construction

/-!
# Analyzers

A batch analyzer looks at all scripts of a project at once; a file analyzer looks at one file and
may fail on it. Both reply with what they have built or with payloads.
-/

namespace Baseline

/-- A rule that analyzers are told to apply, with the settings it came with. -/
structure RuleSetting where
  key : String
  configurations : List Payload
  fileTypes : List String

/-- The rules whose keys are not excluded. -/
def withoutRules (rules : List RuleSetting) (excluded : List String) : List RuleSetting :=
  rules.filter fun rule => !excluded.contains rule.key

/-- What a batch analyzer is given. -/
structure BatchInput where
  rules : List RuleSetting
  baseDir : String
  files : FileGroup

/-- What a file analyzer is given. -/
structure FileInput where
  path : String
  content : String
  rules : List RuleSetting
  linterId : Option String
  language : Language

/-- An error that is met when a failure is asked what it is. -/
structure Escape where
  kind : String
  /-- The text of the error, which may itself be impossible to have. -/
  text : Option String
  deriving DecidableEq, Repr

namespace Escape

/-- The error of a number with too many digits in what should be a text. -/
def longInteger : Escape := ⟨"ValueError", some Number.unshowableMessage⟩

/-- The wording in place of a text that cannot be had. -/
def unspoken : String := "<exception str() failed>"

/-- The wording of an error. -/
def message (escape : Escape) : String := escape.text.getD unspoken

end Escape

/-- A failure that answers for itself when it is asked what it is, and may fail to. -/
structure AskedFailure where
  kind : String
  text : Except Escape String
  /-- The message that it declares, if it is of a kind that declares one. -/
  declared : Option (Except Escape Payload)
  line : Except Escape Payload
  markLine : Except Escape Payload

/-- Why an analyzer has no answer. -/
inductive Failure where
  /-- The analyzer declares that it cannot analyze the file, with a message that should be a text,
  and perhaps on which line. -/
  | declared (message line : Payload)
  /-- The analyzer breaks off with a failure of some kind, which may have a line or a mark. -/
  | raised (kind text : String) (line markLine : Payload)
  /-- The analyzer breaks off with a failure that answers for itself. -/
  | asked (failure : AskedFailure)
  /-- The answer of the analyzer is refused. -/
  | refused (error : CoercionError)
  /-- A value in a data file cannot be made. -/
  | unreadable (error : Yaml.Error) (content : String)

namespace Failure

/-- The text of a failure as it is logged. -/
def text : Failure → Except Escape String
  | .declared message _ => if message.isShowable then .ok message.plainText else .error .longInteger
  | .raised _ text _ _ => .ok text
  | .asked failure => failure.text
  | .refused error => .ok error.message
  | .unreadable error content => .ok (error.message content)

/-- The text of a failure as it is shown even if it cannot be had. -/
def shown (failure : Failure) : String :=
  match failure.text with
  | .ok text => text
  | .error _ => Escape.unspoken

/-- The message that is made of a text: the trimmed text, or else the kind of failure. -/
def messageOf (kind text : String) : Payload :=
  .text (if Text.trimmed text == "" then kind else Text.trimmed text)

/-- The message of a failure as it is reported: what was declared, or else what is made of its
text. -/
def message : Failure → Except Escape Payload
  | .declared message _ => .ok message
  | .raised kind text _ _ => .ok (messageOf kind text)
  | .asked failure => failure.declared.getD (failure.text.map (messageOf failure.kind))
  | failure => failure.text.map fun text => .text (Text.trimmed text)

/-- The line that a mark stands on, lines of marks counted from zero. -/
def lineOfMark : Payload → Option Int
  | .int n => some (n + 1)
  | .bool b => some (if b then 2 else 1)
  | _ => none

/-- The line of a failure: its own if that is an integer, else that of its mark. -/
def line : Failure → Except Escape (Option Int)
  | .declared _ (.int n) => .ok (some n)
  | .raised _ _ (.int n) _ => .ok (some n)
  | .raised _ _ _ mark => .ok (lineOfMark mark)
  | .asked failure => do
    match ← failure.line with
    | .int n => return some n
    | _ => return lineOfMark (← failure.markLine)
  | _ => .ok none

/-- The report of a file on which an analyzer failed, if the failure tells what it is. -/
def report (failure : Failure) : Except Escape FileReport := do
  let message ← failure.message
  let line ← failure.line
  return .ofFailure message line

end Failure

/-- Looks at all scripts of a project. -/
structure BatchAnalyzer where
  name : String
  analyze : BatchInput → Except Failure (Reply Report)

/-- Looks at one file. -/
structure FileAnalyzer where
  name : String
  analyze : FileInput → Except Failure (Reply FileReport)

end Baseline
