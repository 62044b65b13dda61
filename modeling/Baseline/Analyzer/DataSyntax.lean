import Baseline.Analyzer.Basic

/-!
# Syntax of data files

The analyzer of data files finds nothing in a text that is a stream of YAML documents, and fails on
any other.
-/

namespace Baseline.DataSyntax

/-- The failure of an error in a text: a diagnosis is declared, with its line if it has a mark. -/
def failureOf (content : String) (error : Yaml.Error) : Failure :=
  let start := "Unable to parse file: "
  match error.marked? with
  | some problem =>
    .declared (.text (start ++ problem.problem.message)) (.int (problem.mark.line + 1))
  | none =>
    if error.isDiagnosis then .declared (.text (start ++ error.message content)) .null
    else .unreadable error content

/-- The report of a data file, which has no findings. -/
def analyze (content : String) : Except Failure FileReport :=
  match Yaml.check content with
  | .ok () => .ok .clean
  | .error error => .error (failureOf content error)

/-- The analyzer of data files. -/
def analyzer : FileAnalyzer :=
  { name := "YamlSyntaxAnalyzer"
    analyze := fun input => (analyze input.content).map .built }

end Baseline.DataSyntax
