import Baseline.Report.Merge

/-!
# Merging in place

Reports stand in numbered cells and may share what they hold: an entry of a report names the cell of
a file report. A merge makes a report in a cell of its own and puts the entries there one by one. A
file report that is merged otherwise than it is gets a new cell.
-/

namespace Baseline

/-- Cells of file reports, and cells of reports, which name a cell of the former for each path. -/
structure Cells where
  files : List FileReport
  reports : List (Keyed Nat)

namespace Cells

/-- The file report in a cell. -/
def file (cells : Cells) (cell : Nat) : FileReport := cells.files.getD cell .clean

/-- The paths of the report in a cell, with the cells of their file reports. -/
def paths (cells : Cells) (cell : Nat) : Keyed Nat := cells.reports.getD cell ∅

/-- The report in a cell, with the file reports that it names. -/
def report (cells : Cells) (cell : Nat) : Report := (cells.paths cell).mapValues cells.file

/-- Every report names cells that are there. -/
def IsSound (cells : Cells) : Prop :=
  ∀ paths ∈ cells.reports, ∀ entry ∈ paths.entries, entry.2 < cells.files.length

instance (cells : Cells) : Decidable cells.IsSound :=
  inferInstanceAs
    (Decidable (∀ paths ∈ cells.reports, ∀ entry ∈ paths.entries, entry.2 < cells.files.length))

/-- The cells with one more file report. -/
def addFile (cells : Cells) (file : FileReport) : Cells :=
  { cells with files := cells.files ++ [file] }

/-- The cells with one more report, which is empty. -/
def addReport (cells : Cells) : Cells :=
  { cells with reports := cells.reports ++ [∅] }

/-- The cells with an entry put into a report. -/
def putEntry (cells : Cells) (target : Nat) (path : String) (cell : Nat) : Cells :=
  { cells with reports := cells.reports.set target ((cells.paths target).put path cell) }

/-- A cell with a file report whose parsing error has become a finding: its own if it has none. -/
def normalize (cells : Cells) (cell : Nat) : Cells × Nat :=
  match (cells.file cell).parsingError with
  | none => (cells, cell)
  | some _ => (cells.addFile (cells.file cell).normalized, cells.files.length)

/-- A cell with a file report in the language of the file that was found, if one was. -/
def tag (found : Option SourceFile) (cells : Cells) (cell : Nat) : Cells × Nat :=
  match found with
  | none => (cells, cell)
  | some file => (cells.addFile ((cells.file cell).tagged file.language), cells.files.length)

/-- A cell with a file report as it is merged. -/
def settle (found : Option SourceFile) (cells : Cells) (cell : Nat) : Cells × Nat :=
  let (cells, cell) := cells.normalize cell
  cells.tag found cell

/-- Puts entries, in order, into the report that is being merged, up to a path that it has. -/
def absorbEntries (files : Option FileGroup) (target : Nat) (cells : Cells) :
    List (String × Nat) → Cells × Option MergeError
  | [] => (cells, none)
  | (path, cell) :: rest =>
    if (cells.paths target).contains path then (cells, some (.conflict path))
    else
      let (cells, cell) := cells.settle (files.bind (·.get? path)) cell
      absorbEntries files target (cells.putEntry target path cell) rest

/-- Puts the entries of reports, one after the other, into the report that is being merged. -/
def absorbAll (files : Option FileGroup) (target : Nat) (cells : Cells) :
    List Nat → Cells × Option MergeError
  | [] => (cells, none)
  | source :: rest =>
    match cells.absorbEntries files target (cells.paths source).entries with
    | (cells, some e) => (cells, some e)
    | (cells, none) => absorbAll files target cells rest

/-- Merges the reports in some cells, in order: the cells as they are left, and the cell of the
merged report. -/
def merge (files : Option FileGroup) (cells : Cells) (sources : List Nat) :
    Cells × Except MergeError Nat :=
  let target := cells.reports.length
  match cells.addReport.absorbAll files target sources with
  | (cells, some e) => (cells, .error e)
  | (cells, none) => (cells, .ok target)

end Cells

end Baseline
