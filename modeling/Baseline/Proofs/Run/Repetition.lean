import Baseline.Proofs.Discovery.Settling
import Baseline.Proofs.Results.Repetition
import Baseline.Proofs.Run.Course
import Baseline.Proofs.Run.Failure

/-!
# Running twice

An analysis depends on the files that it finds and on nothing else, so it gives the same report
after a run, wherever that has written its results. A second run then changes nothing, unless the
path of the results led nowhere before the first run and to a directory with other files since.
-/

namespace Baseline

namespace Job

variable {α β ε : Type} {job : Job α} {next : α → Job β}

/-- A part of a run has the same result whatever has been done before. -/
def IsSteady (job : Job α) : Prop :=
  ∀ before other, (job.run.run before).1 = (job.run.run other).1

theorem isSteady_pure (a : α) : IsSteady (pure a) := fun _ _ => rfl

theorem isSteady_throw (error : RunError) : IsSteady (throw error : Job α) := fun _ _ => rfl

theorem isSteady_modify (change : Trace → Trace) : IsSteady (modify change : Job Unit) :=
  fun _ _ => rfl

theorem isSteady_orFail (wrap : ε → RunError) (result : Except ε α) :
    IsSteady (Run.orFail wrap result) := by
  cases result with
  | ok a => exact isSteady_pure a
  | error e => exact isSteady_throw (wrap e)

theorem IsSteady.bind (first : IsSteady job) (second : ∀ a, IsSteady (next a)) :
    IsSteady (job >>= next) := by
  intro before other
  have begun := first before other
  rcases ran : job.run.run before with ⟨error | a, after⟩
  · rcases again : job.run.run other with ⟨otherError | a, otherAfter⟩
    · rw [run_bind_of_error ran, run_bind_of_error again]
      rw [ran, again] at begun
      cases begun
      rfl
    · rw [ran, again] at begun
      cases begun
  · rcases again : job.run.run other with ⟨otherError | otherA, otherAfter⟩
    · rw [ran, again] at begun
      cases begun
    · rw [ran, again] at begun
      obtain rfl : a = otherA := Except.ok.inj begun
      rw [run_bind_of_ok ran, run_bind_of_ok again]
      exact second a after otherAfter

theorem isSteady_ite {condition : Prop} [Decidable condition] {first second : Job α}
    (one : IsSteady first) (other : IsSteady second) :
    IsSteady (if condition then first else second) := by
  split
  · exact one
  · exact other

end Job

namespace Run

open FileSystem

variable {fs after : FileSystem} {config : Configuration} {analyzers : AnalyzerSet}
  {spec : ProjectSpec} {rules : List RuleSetting} {report : Report} {project : Path}
  {files : ProjectFiles} {group : FileGroup} {trace : Trace}

/-! ## What an analysis depends on -/

theorem isSteady_say (level : Level) (message : String) : Job.IsSteady (say level message) :=
  Job.isSteady_modify _

theorem isSteady_analyzeScripts (analyzers : AnalyzerSet) (project : Path)
    (rules : List RuleSetting) (group : FileGroup) :
    Job.IsSteady (analyzeScripts analyzers project rules group) := by
  rw [analyzeScripts]
  refine Job.isSteady_ite (Job.isSteady_pure _) ?_
  split
  · exact Job.isSteady_throw _
  · refine (isSteady_say _ _).bind fun _ => ?_
    refine Job.IsSteady.bind (Job.isSteady_modify _) fun _ => ?_
    exact (Job.isSteady_orFail _ _).bind fun _ => Job.isSteady_orFail _ _

theorem isSteady_analyzeFiles (family : Family) (analyzer : Option FileAnalyzer)
    (rules : List RuleSetting) (group : FileGroup) :
    Job.IsSteady (analyzeFiles family analyzer rules group) := by
  unfold analyzeFiles
  refine Job.isSteady_ite (Job.isSteady_pure _) ?_
  split
  · exact Job.isSteady_throw _
  · refine Job.IsSteady.bind (Job.isSteady_modify _) fun _ => ?_
    exact Job.IsSteady.bind (Job.isSteady_modify _) fun _ => Job.isSteady_orFail _ _

theorem isSteady_checkCompleteness (report : Report) (group : FileGroup) :
    Job.IsSteady (checkCompleteness report group) := by
  rw [checkCompleteness]
  refine Job.IsSteady.bind ?_ fun _ => ?_
  all_goals
    apply Job.isSteady_ite (Job.isSteady_pure _)
    exact isSteady_say _ _

/-- Handing out files has the same result whatever has been done before. -/
theorem isSteady_dispatch (config : Configuration) (analyzers : AnalyzerSet) (project : Path)
    (rules : List RuleSetting) (files : ProjectFiles) :
    Job.IsSteady (dispatch config analyzers project rules files) := by
  refine (isSteady_analyzeScripts analyzers project _ _).bind fun script => ?_
  refine (isSteady_analyzeFiles .markup _ _ _).bind fun markup => ?_
  refine (isSteady_analyzeFiles .data _ _ _).bind fun data => ?_
  refine (Job.isSteady_orFail _ _).bind fun report => ?_
  exact (isSteady_checkCompleteness report _).bind fun _ => Job.isSteady_pure _

/-- Finding the files of a project ends as the passes over it do. -/
theorem collect_result :
    ((collect fs none config spec project).run.run trace).1 =
      match (Discovery.collect fs (passFor none config spec) spec project).failure with
      | some e => .error (.discovery e)
      | none => .ok (Discovery.collect fs (passFor none config spec) spec project).files := by
  unfold collect
  rw [Job.run_bind_get, Journal.after_none]
  dsimp only
  rw [log, Job.run_bind_modify]
  cases (Discovery.collect fs (passFor none config spec) spec project).failure with
  | some e => rfl
  | none => rfl

/-- An analysis ends with the passes if one is stopped, and else as handing out the files does. -/
theorem analyzeAt_result :
    ((analyzeAt fs none config analyzers spec rules project).run.run trace).1 =
      match (Discovery.collect fs (passFor none config spec) spec project).failure with
      | some e => .error (.discovery e)
      | none =>
        (perform (dispatch config analyzers project rules
          (Discovery.collect fs (passFor none config spec) spec project).files)).1 := by
  have found := @collect_result fs config spec project trace
  rw [analyzeAt]
  rcases ran : (collect fs none config spec project).run.run trace with ⟨error | files, later⟩
  · rw [Job.run_bind_of_error ran]
    rw [ran] at found
    split at found
    · cases found
      rfl
    · contradiction
  · rw [Job.run_bind_of_ok ran]
    rw [ran] at found
    split at found
    · contradiction
    · cases found
      exact isSteady_dispatch config analyzers project rules _ later {}

/-- After results were written an analysis gives the same report, with any number of workers. -/
theorem analysis_settled (tree : fs.IsTree) (plain : fs.IsPlain) (settles : fs.Settles after)
    (workers : Int) (analyzed : (analysis fs config analyzers spec rules).1 = .ok report) :
    (analysis after { config with maxWorkers := workers } analyzers spec rules).1 = .ok report := by
  have result (fs : FileSystem) (config : Configuration) :=
    @analyzeAt_result fs config analyzers spec rules (projectDirectory fs config spec)
  rw [analysis, perform, say, log, Job.run_bind_modify, result] at analyzed ⊢
  have directory : projectDirectory after { config with maxWorkers := workers } spec =
      projectDirectory fs config spec := absolute_of_current settles.current _
  have pass : passFor none { config with maxWorkers := workers } spec = passFor none config spec :=
    rfl
  split at analyzed
  · contradiction
  · rename_i unfailed
    have quiet : (passFor none config spec).journal = none := rfl
    obtain ⟨unfailedAfter, same⟩ := Discovery.collect_settled tree plain settles quiet unfailed
    rw [directory, pass, unfailedAfter, same]
    exact analyzed

/-! ## A second run -/

/-- A run that has a result has analyzed the project, and ends with the directory, the report and
the paths that were written. -/
theorem analysis_of_returned {result : Result}
    (returned : (run fs none config analyzers spec rules).result = .ok result) :
    (analysis fs config analyzers spec rules).1 = .ok result.report ∧
      result.directory = projectDirectory fs config spec := by
  cases analyzed : (analysis fs config analyzers spec rules).1 with
  | error e => cases returned.symm.trans (run_of_error analyzed).2
  | ok report =>
      obtain ⟨-, ends⟩ := run_of_ok analyzed
      rw [returned] at ends
      split at ends
      · contradiction
      · cases ends
        exact ⟨rfl, rfl⟩

/-- A run ends as the one before it, and leaves the same file system. -/
structure Repeats (before again : Outcome) : Prop where
  result : again.result = before.result
  fs : before.fs.Coincides again.fs

/-- A run with the same report in the same current directory replaces the results by the same
listing. -/
theorem run_of_current {workers : Int} (current : after.current = fs.current)
    (analyzed : (analysis after { config with maxWorkers := workers } analyzers spec rules).1 =
      .ok report) :
    let again := run after none { config with maxWorkers := workers } analyzers spec rules
    let replaced := Results.replace after (targetOf config spec) (listingFor fs config spec report)
    again.fs = replaced.fs ∧
      again.result =
        match replaced.failure with
        | some e => .error (.file e)
        | none => .ok ⟨projectDirectory fs config spec, report, replaced.paths⟩ := by
  have directory : projectDirectory after { config with maxWorkers := workers } spec =
      projectDirectory fs config spec := absolute_of_current current _
  have ends := run_of_ok analyzed
  rw [directory] at ends
  unfold listingFor Results.listingOf
  rw [← absolute_of_current current]
  exact ends

/-- Runs with the same report repeat each other exactly if their replacements do. -/
theorem repeats_iff {before again : Outcome} {result : Result} {written writtenAgain : Results.Written}
    (fsBefore : before.fs = written.fs) (returned : before.result = .ok result)
    (unfailed : written.failure = none) (paths : result.written = written.paths)
    (fsAgain : again.fs = writtenAgain.fs)
    (ends : again.result =
      match writtenAgain.failure with
      | some e => .error (.file e)
      | none => .ok ⟨result.directory, result.report, writtenAgain.paths⟩) :
    Repeats before again ↔ Results.Repeats written writtenAgain := by
  have same : again.result = before.result ↔
      writtenAgain.failure = none ∧ writtenAgain.paths = written.paths := by
    rw [ends, returned, ← paths]
    cases writtenAgain.failure with
    | some e => simp
    | none =>
        obtain ⟨directory, report, written⟩ := result
        simp
  constructor
  · rintro ⟨sameResult, coincides⟩
    obtain ⟨unfailedAgain, pathsAgain⟩ := same.mp sameResult
    rw [fsBefore, fsAgain] at coincides
    exact ⟨unfailedAgain.trans unfailed.symm, pathsAgain, coincides⟩
  · rintro ⟨unfailedAgain, pathsAgain, coincides⟩
    rw [← fsBefore, ← fsAgain] at coincides
    exact ⟨same.mpr ⟨unfailedAgain.trans unfailed, pathsAgain⟩, coincides⟩

/-- After a run that has a result, a run with any number of workers gives the same report, and is
the same again exactly where the directory of results, once it was made, could be read and held
nothing but files that the listing replaces, and its path does not end in two dots: always so if the
path led somewhere before the first run or has no double dots. The tree is to have no links, and the
directory, if it was there, to hold nothing but files with the names of results; only runs that would
remove the directory they start in are not spoken of. -/
theorem repeats_run_iff {result : Result} (tree : fs.IsTree)
    (distinct : (fs.entries.map Prod.fst).Nodup)
    (unlinked : ∀ entry ∈ fs.entries, entry.2.isLink = false)
    (results : ∀ own, fs.LeadsTo true (targetOf config spec) own → fs.hasDirectory own = true →
      Results.HoldsResults fs own)
    (spares : Results.SparesCurrent fs (targetOf config spec))
    (returned : (run fs none config analyzers spec rules).result = .ok result)
    (sparesAgain : Results.SparesCurrent (run fs none config analyzers spec rules).fs
      (targetOf config spec)) :
    let target := targetOf config spec
    let listing := listingFor fs config spec result.report
    let first := run fs none config analyzers spec rules
    let again (workers : Int) :=
      run first.fs none { config with maxWorkers := workers } analyzers spec rules
    ∃ own, first.fs.LeadsTo true target own ∧
      (∀ workers,
        (analysis first.fs { config with maxWorkers := workers } analyzers spec rules).1 =
            .ok result.report ∧
          (Repeats first (again workers) ↔
            Results.IsRepeatable (Results.prepared fs target) target own listing)) ∧
      (fs.pathExists target = .ok true ∨ ".." ∉ target.parts →
        ∀ workers, Repeats first (again workers)) := by
  intro target listing first again
  have plain := tree.isPlain distinct unlinked
  have named : ∀ entry ∈ listing, Results.IsRuleName entry.1 := isRuleName_of_mem_listingFor
  have nodup : (listing.map Prod.fst).Nodup := Results.nodup_ofReport _ _ _
  obtain ⟨unfailed, same, paths⟩ := replace_of_returned returned
  obtain ⟨analyzed, directory⟩ := analysis_of_returned returned
  rw [same] at sparesAgain
  have settles := Results.settles_replace plain spares named nodup results unfailed
  have analyzedAgain (workers : Int) := analysis_settled tree plain settles workers analyzed
  obtain ⟨own, leads, repeated, usual⟩ := Results.repeats_replace_iff plain spares named nodup
    unfailed settles.plain sparesAgain
  have repeats (workers : Int) : Repeats first (again workers) ↔
      Results.IsRepeatable (Results.prepared fs target) target own listing := by
    obtain ⟨fsAgain, ends⟩ := run_of_current settles.current (analyzedAgain workers)
    rw [← directory, ← same] at ends
    rw [← same] at fsAgain repeated
    exact (repeats_iff same returned unfailed paths fsAgain ends).trans repeated
  refine ⟨own, by rw [← same] at leads; exact leads, fun workers => ⟨?_, repeats workers⟩, ?_⟩
  · have given := analyzedAgain workers
    rw [← same] at given
    exact given
  · exact fun settled workers => (repeats workers).mpr (usual settled)

/-- Reports one finding in a script. -/
def oneFinding : BatchAnalyzer where
  name := "finding"
  analyze _ := .ok <| .described <| .map [("/w/sources/p/a.js",
    .map [("issues", .list [.map [("ruleId", .text "S2"), ("line", .int 1)]])])]

/-- A run of such an analyzer, under a name for the project. -/
def findingRun (fs : FileSystem) (workers : Int) (name : String) : Outcome :=
  run fs none { Configuration.standard (Path.parse "/w") with maxWorkers := workers }
    { script := some oneFinding } { name, folder := some "p" } []

theorem repeats_run_iff_findingRun :
    earlierResults.IsTree ∧ Results.HoldsResults earlierResults ["w", "actual", "p"] ∧
      (∃ result, (findingRun earlierResults 1 "p").result = .ok result) ∧
      ∀ workers, Repeats (findingRun earlierResults 1 "p")
        (findingRun (findingRun earlierResults 1 "p").fs workers "p") := by
  have tree : earlierResults.IsTree := by decide
  have located : earlierResults.locate true (Path.parse "/w/actual/p") =
      .ok ⟨["w", "actual", "p"], some (.directory false)⟩ := by decide +kernel
  have holds : Results.HoldsResults earlierResults ["w", "actual", "p"] :=
    Results.holdsResults_of_forall (by decide)
  have ends : (findingRun earlierResults 1 "p").result.isOk = true := by decide +kernel
  have there : earlierResults.pathExists (Path.parse "/w/actual/p") = .ok true := by
    decide +kernel
  obtain ⟨result, returned⟩ := Except.exists_of_isOk ends
  have target : targetOf { Configuration.standard (Path.parse "/w") with maxWorkers := 1 }
      { name := "p", folder := some "p" } = Path.parse "/w/actual/p" := by decide +kernel
  have absolute (fs : FileSystem) : Results.SparesCurrent fs (Path.parse "/w/actual/p") :=
    fun _ _ _ => by decide
  obtain ⟨own, -, -, repeated⟩ := repeats_run_iff tree (by decide) (by decide)
    (by
      rw [target]
      intro own leads _
      obtain rfl := leads.unique (locate_eq_ok_iff.mp located).1
      exact holds)
    (by rw [target]; exact absolute _) returned (by rw [target]; exact absolute _)
  rw [target] at repeated
  exact ⟨tree, holds, ⟨result, returned⟩, repeated (.inl there)⟩

/-- Where the path of the results passes through a directory that is not there yet, the first run
removes nothing, and the second run removes the file of an earlier one. -/
theorem detouredRun_not_repeats :
    earlierResults.IsTree ∧ (∀ entry ∈ earlierResults.entries, entry.2.isLink = false) ∧
      earlierResults.pathExists (Path.parse "/w/actual/new/../p") = .ok false ∧
      (∃ result, (findingRun earlierResults 1 "new/../p").result = .ok result) ∧
      ¬Repeats (findingRun earlierResults 1 "new/../p")
        (findingRun (findingRun earlierResults 1 "new/../p").fs 1 "new/../p") := by
  have ends : (findingRun earlierResults 1 "new/../p").result.isOk = true := by decide +kernel
  have kept : (findingRun earlierResults 1 "new/../p").fs.find?
      ["w", "actual", "p", "javascript-S1.json"] ≠ none := by decide +kernel
  have gone : (findingRun (findingRun earlierResults 1 "new/../p").fs 1 "new/../p").fs.find?
      ["w", "actual", "p", "javascript-S1.json"] = none := by decide +kernel
  refine ⟨by decide, by decide, by decide +kernel, Except.exists_of_isOk ends, ?_⟩
  intro repeats
  exact kept ((repeats.fs.same _).symm.trans gone)

end Run

end Baseline
