import Baseline.Payload.Basic
import Baseline.Source.Basic

/-!
# Reports

A report holds for each file, by its path, what was found in it: findings, or a parsing error that
the analyzer reported in their place.
-/

namespace Baseline

/-- What was found in one file. -/
structure FileReport where
  issues : List Diagnostic
  parsingError : Option ParsingError
  language : Option Language

namespace FileReport

/-- Nothing was found. -/
def clean : FileReport := ⟨[], none, none⟩

instance : Inhabited FileReport := ⟨clean⟩

/-- The report with a language. -/
def tagged (report : FileReport) (language : Language) : FileReport :=
  { report with language := some language }

end FileReport

/-- What was found in files, by path. -/
abbrev Report := Keyed FileReport

namespace DiagnosticOf

/-- A finding as a payload map; its further fields come last. -/
def toPayload (d : Diagnostic) : Payload :=
  let optional (key : String) : Option Int → List (String × Payload)
    | none => []
    | some n => [(key, .int n)]
  .map <|
    [("ruleId", .text d.ruleId), ("line", d.line.elim .null .int), ("column", .int d.column),
      ("message", d.message), ("secondaryLocations", .list d.secondary)] ++
    optional "endLine" d.endLine ++ optional "endColumn" d.endColumn ++ d.extra

end DiagnosticOf

namespace ParsingError

/-- A parsing error as a payload map. -/
def toPayload (e : ParsingError) : Payload :=
  .map [("message", .text e.message), ("line", e.line.elim .null .int),
    ("code", e.code.elim .null .text)]

end ParsingError

namespace FileReport

/-- The report of a file as a payload map. -/
def toPayload (report : FileReport) : Payload :=
  .map <|
    [("issues", .list (report.issues.map DiagnosticOf.toPayload))] ++
    (report.parsingError.elim [] fun e => [("parsingError", e.toPayload)]) ++
    (report.language.elim [] fun language => [("language", .text language.tag)])

end FileReport

namespace Keyed

/-- A report as a payload map. -/
def toPayload (report : Report) : Payload :=
  .map [("files", .map (report.entries.map fun (path, file) => (path, file.toPayload)))]

end Keyed

end Baseline
