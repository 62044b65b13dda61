import Baseline.Proofs.Results.Replacement
import Baseline.Run

/-!
# Stages of a run

A run first finds and analyzes the files of a project and then writes the results. Only the second
stage changes the file system, and only it fails with an error of a file.
-/

namespace Baseline

namespace Job

variable {α β ε : Type} {allowed : RunError → Prop}

/-- A part of a run fails only with some errors, whatever its trace is. -/
def FailsOnly (allowed : RunError → Prop) (job : Job α) : Prop :=
  ∀ trace error, (job.run.run trace).1 = .error error → allowed error

/-- One part after the other fails only with what either fails with. -/
theorem FailsOnly.bind {job : Job α} {next : α → Job β} (first : FailsOnly allowed job)
    (second : ∀ a, FailsOnly allowed (next a)) : FailsOnly allowed (job >>= next) := by
  intro trace error failed
  have begun := first trace
  rw [ExceptT.run_bind, StateT.run_bind] at failed
  rcases ran : job.run.run trace with ⟨stop | a, later⟩
  · rw [ran] at failed begun
    refine begun error ?_
    cases failed
    rfl
  · rw [ran] at failed
    exact second a later error failed

end Job

namespace Run

variable {fs : FileSystem} {config : Configuration} {analyzers : AnalyzerSet} {spec : ProjectSpec}
  {rules : List RuleSetting} {report : Report} {trace : Trace} {error : RunError}

/-- The analysis of a project, as a run has it made. -/
def analysis (fs : FileSystem) (config : Configuration) (analyzers : AnalyzerSet)
    (spec : ProjectSpec) (rules : List RuleSetting) : Except RunError Report × Trace :=
  perform do
    say .info s!"Starting analysis of {spec.name}"
    analyzeAt fs none config analyzers spec rules (projectDirectory fs config spec)

/-- The directory that the results of a project are written to. -/
def targetOf (config : Configuration) (spec : ProjectSpec) : Path :=
  Results.projectDirectory config.results spec.name

/-- The listing of a report on a project. -/
def listingFor (fs : FileSystem) (config : Configuration) (spec : ProjectSpec) (report : Report) :
    Listing :=
  Results.listingOf fs spec.name (projectDirectory fs config spec) report

theorem isAbsolute_targetOf (absolute : config.results.isAbsolute = true) :
    (targetOf config spec).isAbsolute = true :=
  Path.isAbsolute_below absolute _

theorem isRuleName_of_mem_listingFor :
    ∀ entry ∈ listingFor fs config spec report, Results.IsRuleName entry.1 :=
  fun _ member => Results.isRuleName_of_mem_ofReport member

theorem run_eq :
    run fs none config analyzers spec rules =
      match analysis fs config analyzers spec rules with
      | (.error e, trace) => ⟨fs, trace, .error e⟩
      | (.ok report, trace) =>
        finish fs none config spec (projectDirectory fs config spec) report trace := by
  rw [run, analysis]
  simp only [Journal.after_none]
  rcases perform _ with ⟨e | report, trace⟩ <;> rfl

/-- A run whose analysis fails changes nothing. -/
theorem run_of_error (failed : (analysis fs config analyzers spec rules).1 = .error error) :
    (run fs none config analyzers spec rules).fs = fs ∧
      (run fs none config analyzers spec rules).result = .error error := by
  rw [run_eq]
  rcases analyzed : analysis fs config analyzers spec rules with ⟨result, trace⟩
  rw [analyzed] at failed
  obtain rfl : result = _ := failed
  exact ⟨rfl, rfl⟩

/-- With no journal, a run ends by writing its results, and fails only in that. -/
theorem finish_eq (directory : Path) :
    let written := Results.write fs config.results spec.name directory report
    (finish fs none config spec directory report trace).fs = written.fs ∧
      (finish fs none config spec directory report trace).result =
        match written.failure with
        | some e => .error (.file e)
        | none => .ok ⟨directory, report, written.paths⟩ := by
  intro written
  have quiet : journalAfterClearing fs none (targetOf config spec) = none := rfl
  unfold targetOf at quiet
  unfold finish
  simp only [quiet, Journal.after_none, written]
  cases (Results.write fs config.results spec.name directory report).failure with
  | some e => exact ⟨rfl, rfl⟩
  | none => exact ⟨rfl, rfl⟩

/-- A run whose analysis gives a report ends with that. -/
theorem run_of_ok (analyzed : (analysis fs config analyzers spec rules).1 = .ok report) :
    let directory := projectDirectory fs config spec
    let written := Results.write fs config.results spec.name directory report
    (run fs none config analyzers spec rules).fs = written.fs ∧
      (run fs none config analyzers spec rules).result =
        match written.failure with
        | some e => .error (.file e)
        | none => .ok ⟨directory, report, written.paths⟩ := by
  intro directory written
  rw [run_eq]
  rcases whole : analysis fs config analyzers spec rules with ⟨result, trace⟩
  rw [whole] at analyzed
  obtain rfl : result = _ := analyzed
  exact finish_eq directory

/-- A run that has a result has replaced the results of the project by its listing. -/
theorem replace_of_returned {result : Result}
    (returned : (run fs none config analyzers spec rules).result = .ok result) :
    let replaced := Results.replace fs (targetOf config spec)
      (listingFor fs config spec result.report)
    replaced.failure = none ∧ (run fs none config analyzers spec rules).fs = replaced.fs ∧
      result.written = replaced.paths := by
  cases analyzed : (analysis fs config analyzers spec rules).1 with
  | error e => cases returned.symm.trans (run_of_error analyzed).2
  | ok report =>
      obtain ⟨same, ends⟩ := run_of_ok analyzed
      rw [returned] at ends
      split at ends
      · contradiction
      · rename_i unfailed
        cases ends
        exact ⟨unfailed, same, rfl⟩

end Run

end Baseline
