import Baseline.Log

/-!
# Progress reports

Work on a known number of files is announced, reported on at most once in a period, and concluded.
Readings of the clock are values of any type with a difference and an order.
-/

namespace Baseline

/-- How far the work has come and when that was last reported. -/
structure Progress (τ : Type) where
  title : String
  total : Int
  done : Nat
  period : τ
  last : τ

namespace Progress

variable {τ : Type}

/-- Work that has not been reported on since a reading of the clock. -/
def ofReading (title : String) (total : Int) (period reading : τ) : Progress τ :=
  ⟨title, total, 0, period, reading⟩

/-- The announcement of the work. -/
def startMessage (progress : Progress τ) : String :=
  s!"{progress.title}: {progress.total} source file(s) to be analyzed"

/-- The report that a file is done. -/
def advanceMessage (progress : Progress τ) (path : String) : String :=
  s!"{progress.title}: {progress.done}/{progress.total} files analyzed, current file: {path}"

/-- The conclusion of the work. -/
def stopMessage (progress : Progress τ) : String :=
  s!"{progress.title}: {progress.done}/{progress.total} source file(s) have been analyzed"

/-- One more file is done at a reading; it is reported unless the last report is less than a period
ago. -/
def advance [Sub τ] [LT τ] [DecidableLT τ] (progress : Progress τ) (reading : τ) (path : String) :
    Progress τ × Option String :=
  let counted := { progress with done := progress.done + 1 }
  if reading - progress.last < progress.period then (counted, none)
  else
    let reported := { counted with last := reading }
    (reported, some (reported.advanceMessage path))

end Progress

end Baseline
