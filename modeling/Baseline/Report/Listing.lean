import Baseline.Report.Merge

/-!
# Issue listings

A listing says for each rule of each language which lines of which files the rule was found on. It
does not depend on the order in which files and findings were reported.
-/

namespace Baseline

/-- The lines of each file, by the key of the file. -/
abbrev FileLines := List (String × List Int)

/-- The lines of each file, by the name of the language and rule. -/
abbrev Listing := List (String × FileLines)

namespace Listing

/-- One finding as it is listed. -/
structure Entry where
  name : String
  key : String
  line : Int
  deriving DecidableEq, Repr

/-- The name under which a rule of a language is listed; untagged files count as JavaScript. -/
def ruleName (language : Option Language) (rule : String) : String :=
  (language.getD .javascript).displayName ++ "-" ++ rule

/-- The path below a directory, or the path itself if it lies elsewhere. -/
def relativeTo (directory path : String) : String :=
  let stem := (directory.toList.reverse.dropWhile (· == '/')).reverse ++ ['/']
  if stem.isPrefixOf path.toList then String.ofList (path.toList.drop stem.length) else path

/-- The key under which a file of a project is listed. -/
def fileKey (project base path : String) : String := project ++ ":" ++ relativeTo base path

/-- The findings of a file as they are listed; one without a line is listed on line zero. -/
def fileEntries (project base path : String) (file : FileReport) : List Entry :=
  file.issues.map fun issue =>
    ⟨ruleName file.language issue.ruleId, fileKey project base path, issue.line.getD 0⟩

/-- The findings of a report as they are listed. -/
def entries (project base : String) (report : Report) : List Entry :=
  report.entries.flatMap fun (path, file) => fileEntries project base path file

/-- Lines in ascending order. -/
def sortedLines (lines : List Int) : List Int :=
  lines.mergeSort fun a b => decide (a ≤ b)

/-- Findings under one name, grouped by file. -/
def fileLines (found : List Entry) : FileLines :=
  (Text.sortedDistinct (found.map Entry.key)).map fun key =>
    (key, sortedLines ((found.filter (·.key == key)).map Entry.line))

/-- Findings grouped by name and by file, everything in order. -/
def ofEntries (found : List Entry) : Listing :=
  (Text.sortedDistinct (found.map Entry.name)).map fun name =>
    (name, fileLines (found.filter (·.name == name)))

/-- The listing of a report on a project that lies in a directory. -/
def ofReport (project base : String) (report : Report) : Listing :=
  ofEntries (entries project base report)

end Listing

end Baseline
