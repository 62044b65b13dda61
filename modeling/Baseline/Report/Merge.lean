import Baseline.Report.Coercion
import Baseline.Text.Order

/-!
# Merging reports

Reports of different analyzers are merged into one. No file may be reported twice. A reported
parsing error becomes a finding of a rule of its own, and a file that was found before gets the
language it was found with.
-/

namespace Baseline

/-- The rule under which a file that cannot be parsed is listed. -/
def parsingFailureRule : String := "S2260"

namespace FileReport

/-- The report of a file that could not be parsed. -/
def ofFailure (message : Payload) (line : Option Int) : FileReport :=
  { issues := [⟨parsingFailureRule, line, 0, message, none, none, [], []⟩]
    parsingError := none
    language := none }

/-- Whether a report says that its file could not be parsed. -/
def isFailure (report : FileReport) : Bool :=
  match report.issues with
  | [issue] => issue.ruleId == parsingFailureRule
  | _ => false

/-- The report with a parsing error turned into a finding. -/
def normalized (report : FileReport) : FileReport :=
  match report.parsingError with
  | none => report
  | some e => { ofFailure (.text e.message) e.line with language := report.language }

theorem parsingError_normalized (report : FileReport) : report.normalized.parsingError = none := by
  unfold normalized
  split
  · assumption
  · rfl

/-- The report as it is merged, under the language of the file that was found. -/
def merged (found : Option SourceFile) (report : FileReport) : FileReport :=
  match found with
  | none => report.normalized
  | some file => report.normalized.tagged file.language

end FileReport

/-- Why reports cannot be merged. -/
inductive MergeError where
  | conflict (path : String)
  | coercion (error : CoercionError)
  deriving DecidableEq, Repr

/-- The wording of a merge error. -/
def MergeError.message : MergeError → String
  | .conflict path => s!"File {path} has been analyzed in multiple paths"
  | .coercion error => error.message

/-- Whether a merge error is reported as one of the run. -/
def MergeError.isReported : MergeError → Bool
  | .conflict _ => true
  | .coercion _ => false

namespace Report

/-- Puts the entries of one more report, in order, after those merged so far. -/
def absorbEntries (files : Option FileGroup) (merged : Report) :
    List (String × FileReport) → Except MergeError Report
  | [] => .ok merged
  | (path, report) :: rest =>
    if merged.contains path then .error (.conflict path)
    else absorbEntries files (merged.put path (report.merged (files.bind (·.get? path)))) rest

/-- One more report merged. -/
def absorb (files : Option FileGroup) (merged report : Report) : Except MergeError Report :=
  absorbEntries files merged report.entries

/-- The reports merged in order. -/
def merge (files : Option FileGroup) (reports : List Report) : Except MergeError Report :=
  reports.foldlM (absorb files) ∅

/-- The reports that replies give, each read when its turn comes, merged in order. -/
def mergeReplies (files : Option FileGroup) (replies : List (Reply Report)) :
    Except MergeError Report :=
  replies.foldlM (fun merged reply =>
    match ofReply reply with
    | .error e => .error (.coercion e)
    | .ok report => absorb files merged report) ∅

/-- The paths of the files that could not be parsed, in order. -/
def failures (report : Report) : List String :=
  Text.sorted ((report.entries.filter fun (_, file) => file.isFailure).map Prod.fst)

/-- The number of findings of each rule, by rule. -/
def summary (report : Report) : List (String × Nat) :=
  let rules := report.values.flatMap fun file => file.issues.map (·.ruleId)
  (Text.sortedDistinct rules).map fun rule => (rule, rules.count rule)

/-- The found files that have no report, in order. -/
def missing (report : Report) (files : FileGroup) : List String :=
  Text.sorted (files.keys.filter fun path => !report.contains path)

/-- The reported files that were not found, in order. -/
def unexpected (report : Report) (files : FileGroup) : List String :=
  Text.sorted (report.keys.filter fun path => !files.contains path)

end Report

end Baseline
