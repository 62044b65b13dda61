import Baseline.Proofs.Run.Aggregation

/-!
# The course of an analysis

An analysis goes through the families stage by stage. A stage calls the analyzer of its family, once
for all scripts and once for each other file, or ends the analysis for want of an analyzer, or is
broken off. So there is one course for each way in which it can end at a stage, and one through all
of them.
-/

namespace Baseline

namespace Run

variable {fs : FileSystem} {config : Configuration} {analyzers : AnalyzerSet} {spec : ProjectSpec}
  {rules : List RuleSetting} {files : ProjectFiles} {group : FileGroup} {family : Family}
  {before after : Trace} {project : Path} {script : Report}

/-! ## The calls that files ask for -/

/-- The calls of the batch analyzer: one for all scripts, if there are any. -/
def scriptCalls (project : Path) (rules : List RuleSetting) (scripts : FileGroup) :
    List BatchInput :=
  if scripts.isEmpty then []
  else [{ rules, baseDir := unixPath project.text, files := scripts }]

/-! ## What each stage does -/

/-- What comes of the answer of a batch analyzer: the report in it, or why there is none. -/
def scriptsResult : Except Failure (Reply Report) → Except RunError Report
  | .error failure => .error (.analyzer failure)
  | .ok reply => (Report.ofReply reply).mapError fun e => .analyzer (.refused e)

theorem exists_failure {answer : Except Failure (Reply Report)} {error : RunError}
    (failed : scriptsResult answer = .error error) : ∃ failure, error = .analyzer failure := by
  cases answer with
  | error failure => exact ⟨failure, (Except.error.inj failed).symm⟩
  | ok reply =>
      rw [scriptsResult] at failed
      cases read : Report.ofReply reply with
      | error e =>
          rw [read] at failed
          exact ⟨.refused e, (Except.error.inj failed).symm⟩
      | ok report =>
          rw [read] at failed
          cases failed

theorem run_answer (answer : Except Failure (Reply Report)) (before : Trace) :
    (orFail .analyzer answer >>= fun reply =>
      orFail (fun e => .analyzer (.refused e)) (Report.ofReply reply) : Job Report).run.run before =
        (scriptsResult answer, before) := by
  cases answer with
  | error failure => rfl
  | ok reply =>
      rw [orFail, pure_bind, scriptsResult]
      cases Report.ofReply reply with
      | error e => rfl
      | ok report => rfl

section Scripts

variable {scripts : FileGroup} {caller : BatchAnalyzer}

theorem answers_iff_of_present (some : scripts.isEmpty = false)
    (present : analyzers.script = .some caller) :
    Answers analyzers project rules scripts script ↔
      scriptsResult (caller.analyze ⟨rules, unixPath project.text, scripts⟩) = .ok script := by
  constructor
  · intro answered
    cases answered with
    | nothing none => simp [some] at none
    | reply _ same replied read =>
        obtain rfl := Option.some.inj (present.symm.trans same)
        rw [replied, scriptsResult, read]
        rfl
  · intro result
    cases replied : caller.analyze ⟨rules, unixPath project.text, scripts⟩ with
    | error failure =>
        rw [replied] at result
        cases result
    | ok reply =>
        rw [replied, scriptsResult] at result
        cases read : Report.ofReply reply with
        | error e =>
            rw [read] at result
            cases result
        | ok report =>
            rw [read] at result
            obtain rfl := Except.ok.inj result
            exact .reply some present replied read

theorem analyzeScripts_of_present (some : scripts.isEmpty = false)
    (present : analyzers.script = .some caller) (before : Trace) :
    ∃ after : Trace,
      (analyzeScripts analyzers project rules scripts).run.run before =
          (scriptsResult (caller.analyze ⟨rules, unixPath project.text, scripts⟩), after) ∧
        after.batchCalls = before.batchCalls ++ scriptCalls project rules scripts ∧
        after.fileCalls = before.fileCalls := by
  have once : scriptCalls project rules scripts = [⟨rules, unixPath project.text, scripts⟩] :=
    if_neg (by simp [some])
  unfold analyzeScripts
  rw [if_neg (by simp [some]), present, once]
  dsimp only
  rw [say, log, Job.run_bind_modify, Job.run_bind_modify]
  rw [run_answer]
  exact ⟨_, rfl, rfl, rfl⟩

end Scripts

/-- All that can come of the scripts: they are reported on, there is no analyzer for them, or it is
called and has no answer that is accepted. -/
theorem analyzeScripts_cases (analyzers : AnalyzerSet) (project : Path) (rules : List RuleSetting)
    (scripts : FileGroup) (before : Trace) :
    let done := (analyzeScripts analyzers project rules scripts).run.run before
    let called := done.2.batchCalls = before.batchCalls ++ scriptCalls project rules scripts ∧
      done.2.fileCalls = before.fileCalls
    (∃ report, done.1 = .ok report ∧ Answers analyzers project rules scripts report ∧ called) ∨
      (scripts.isEmpty = false ∧ analyzers.script = none ∧
        done = (.error (.noAnalyzer .script), before)) ∨
      (∃ failure, done.1 = .error (.analyzer failure) ∧ analyzers.script.isSome = true ∧
        (∀ report, ¬Answers analyzers project rules scripts report) ∧ called) := by
  dsimp only
  cases empty : scripts.isEmpty with
  | true =>
      have none : scriptCalls project rules scripts = [] := if_pos empty
      rw [analyzeScripts, if_pos empty, none, List.append_nil]
      exact .inl ⟨∅, rfl, .nothing empty, rfl, rfl⟩
  | false =>
      cases present : analyzers.script with
      | none =>
          refine .inr (.inl ⟨rfl, rfl, ?_⟩)
          rw [analyzeScripts, if_neg (by simp [empty]), present]
          rfl
      | some caller =>
          obtain ⟨after, ran, called⟩ := analyzeScripts_of_present empty present before
          rw [ran]
          cases result : scriptsResult (caller.analyze ⟨rules, unixPath project.text, scripts⟩) with
          | ok report =>
              exact .inl ⟨report, rfl, (answers_iff_of_present empty present).mpr result, called⟩
          | error error =>
              obtain ⟨failure, rfl⟩ := exists_failure result
              refine .inr (.inr ⟨failure, rfl, rfl, fun report answered => ?_, called⟩)
              cases result.symm.trans ((answers_iff_of_present empty present).mp answered)

/-- All that can come of a family of single files: something is reported on them, or what breaks
that off is, or there is no analyzer for them. If nothing breaks it off each file has been called
for. -/
theorem analyzeFiles_cases (family : Family) (analyzer : Option FileAnalyzer)
    (rules : List RuleSetting) (group : FileGroup) (before : Trace) :
    let done := (analyzeFiles family analyzer rules group).run.run before
    (∃ ran calls, Reports analyzer rules (linterFor family) group ran ∧
        done.1 = ran.mapError .execution ∧ done.2.batchCalls = before.batchCalls ∧
        done.2.fileCalls = before.fileCalls ++ calls ∧
        ∀ report, ran = .ok report →
          calls = fileCalls family rules (linterFor family) group) ∨
      (group.isEmpty = false ∧ analyzer = none ∧
        done = (.error (.noAnalyzer family), before)) := by
  dsimp only
  cases empty : group.isEmpty with
  | true =>
      rw [analyzeFiles.eq_def, if_pos empty]
      exact .inl ⟨.ok ∅, [], .nothing empty, rfl, rfl, (List.append_nil _).symm,
        fun _ _ => (fileCalls_of_isEmpty empty).symm⟩
  | false =>
      cases analyzer with
      | none =>
          rw [analyzeFiles.eq_def, if_neg (by simp [empty])]
          exact .inr ⟨rfl, rfl, rfl⟩
      | some caller =>
          rw [analyzeFiles_run family caller before empty]
          refine .inl ⟨_, _, .run empty rfl, rfl, rfl, rfl, fun report ran => ?_⟩
          have all := Execution.exists_run_iff.mp ⟨report, ran⟩
          rw [Execution.calls, Execution.reached_eq all, map_inputsOf]

/-! ## Families without an analyzer -/

/-- Whether a family has files and no analyzer. -/
def isMissing (analyzers : AnalyzerSet) (files : ProjectFiles) (family : Family) : Bool :=
  !(files.group family).isEmpty && (analyzers.nameOf? family).isNone

/-- The first family that has files and no analyzer. -/
def firstMissing? (analyzers : AnalyzerSet) (files : ProjectFiles) : Option Family :=
  Family.all.find? (isMissing analyzers files)

theorem isMissing_eq_true_iff :
    isMissing analyzers files family = true ↔
      (files.group family).isEmpty = false ∧ analyzers.nameOf? family = none := by
  simp [isMissing]

theorem isMissing_of_answers (answered : Answers analyzers project rules files.script script) :
    isMissing analyzers files .script = false := by
  cases answered with
  | nothing none => simp [isMissing, ProjectFiles.group, none]
  | reply some present replied read => simp [isMissing, AnalyzerSet.nameOf?, present]

theorem isMissing_markup_eq_false_iff :
    isMissing analyzers files .markup = false ↔
      (files.markup.isEmpty = false → analyzers.markup.isSome = true) := by
  rw [isMissing, ProjectFiles.group]
  simp [AnalyzerSet.nameOf?]

theorem isMissing_data_eq_false_iff :
    isMissing analyzers files .data = false ↔
      (files.data.isEmpty = false → analyzers.data.isSome = true) := by
  rw [isMissing, ProjectFiles.group]
  simp [AnalyzerSet.nameOf?]

/-! ## How the files of a project are handed out -/

/-- The stage of the data files, and the merge of all reports after it. -/
def dispatchData (config : Configuration) (analyzers : AnalyzerSet) (rules : List RuleSetting)
    (files : ProjectFiles) (script markup : Report) : Job Report := do
  let data ← analyzeFiles .data analyzers.data (rulesFor config rules .data) files.data
  let report ← orFail .merge (Report.merge (some files.all) [script, markup, data])
  checkCompleteness report files.all
  return report

/-- The stage of the markup files, and what follows it. -/
def dispatchMarkup (config : Configuration) (analyzers : AnalyzerSet) (rules : List RuleSetting)
    (files : ProjectFiles) (script : Report) : Job Report := do
  let markup ← analyzeFiles .markup analyzers.markup (rulesFor config rules .markup) files.markup
  dispatchData config analyzers rules files script markup

/-- What follows once the files of a project are found. -/
def dispatch (config : Configuration) (analyzers : AnalyzerSet) (project : Path)
    (rules : List RuleSetting) (files : ProjectFiles) : Job Report := do
  let script ← analyzeScripts analyzers project (rulesFor config rules .script) files.script
  dispatchMarkup config analyzers rules files script

theorem calls_collect
    (found : (collect fs none config spec project).run.run before = (.ok files, after)) :
    after.batchCalls = before.batchCalls ∧ after.fileCalls = before.fileCalls := by
  unfold collect at found
  rw [Job.run_bind_get] at found
  dsimp only at found
  rw [log, Job.run_bind_modify] at found
  split at found
  · cases found
  · cases found
    exact ⟨rfl, rfl⟩

/-- An analysis comes down to handing out the files that it has found, with no call made before. -/
theorem analyze_eq_dispatch (rules : List RuleSetting)
    (found : (perform (collectFiles fs config spec)).1 = .ok files) :
    ∃ before : Trace, before.batchCalls = [] ∧ before.fileCalls = [] ∧
      ∀ analyzers, perform (analyze fs config analyzers spec rules) =
        (dispatch config analyzers (projectDirectory fs config spec) rules files).run.run
          before := by
  obtain ⟨batch, single⟩ := calls_collect (collect_of_found found)
  refine ⟨_, batch, single, fun analyzers => ?_⟩
  unfold perform analyze analyzeAt
  rw [Job.run_bind_of_ok (collect_of_found found)]
  rfl

/-- Merging and the check for completeness neither call an analyzer nor miss one. -/
theorem merged_cases (reports : List Report) (all : FileGroup) (before : Trace) :
    let done := (orFail .merge (Report.merge (some all) reports) >>= fun report =>
      checkCompleteness report all >>= fun _ => pure report).run.run before
    (∀ family, done.1 ≠ .error (.noAnalyzer family)) ∧
      done.2.batchCalls = before.batchCalls ∧ done.2.fileCalls = before.fileCalls := by
  intro done
  have defined : done = (orFail .merge (Report.merge (some all) reports) >>= fun report =>
    checkCompleteness report all >>= fun _ => pure report).run.run before := rfl
  cases merged : Report.merge (some all) reports with
  | error e =>
      rw [merged] at defined
      rw [defined]
      refine ⟨fun family same => ?_, rfl, rfl⟩
      cases same
  | ok report =>
      rw [merged, orFail, pure_bind, Job.run_bind_of_ok checkCompleteness_run] at defined
      rw [defined]
      refine ⟨fun family same => ?_, rfl, rfl⟩
      cases same

/-- How handing out files ends: with which result, which calls of the batch analyzer and which of
the others. -/
inductive Course (config : Configuration) (analyzers : AnalyzerSet) (project : Path)
    (rules : List RuleSetting) (files : ProjectFiles) :
    Except RunError Report → List BatchInput → List (Family × FileInput) → Prop where
  | noScripts (scripts : isMissing analyzers files .script = true) :
      Course config analyzers project rules files (.error (.noAnalyzer .script)) [] []
  | failed (failure : Failure) (scripts : isMissing analyzers files .script = false)
      (unanswered : ∀ script, ¬Answers analyzers project rules files.script script) :
      Course config analyzers project rules files (.error (.analyzer failure))
        (scriptCalls project rules files.script) []
  | noMarkup {script : Report} (answered : Answers analyzers project rules files.script script)
      (markups : isMissing analyzers files .markup = true) :
      Course config analyzers project rules files (.error (.noAnalyzer .markup))
        (scriptCalls project rules files.script) []
  | brokenMarkup {script : Report} {escape : Escape} {calls : List (Family × FileInput)}
      (answered : Answers analyzers project rules files.script script)
      (markups : isMissing analyzers files .markup = false)
      (breaks : (markupCalls config rules files).findSome? (escape? analyzers) = some escape) :
      Course config analyzers project rules files (.error (.execution escape))
        (scriptCalls project rules files.script) calls
  | noData {script : Report} (answered : Answers analyzers project rules files.script script)
      (markups : isMissing analyzers files .markup = false)
      (told : (markupCalls config rules files).findSome? (escape? analyzers) = none)
      (datas : isMissing analyzers files .data = true) :
      Course config analyzers project rules files (.error (.noAnalyzer .data))
        (scriptCalls project rules files.script) (markupCalls config rules files)
  | brokenData {script : Report} {escape : Escape} {calls : List (Family × FileInput)}
      (answered : Answers analyzers project rules files.script script)
      (markups : isMissing analyzers files .markup = false)
      (datas : isMissing analyzers files .data = false) :
      Course config analyzers project rules files (.error (.execution escape))
        (scriptCalls project rules files.script) calls
  | ended {script : Report} {result : Except RunError Report}
      (answered : Answers analyzers project rules files.script script)
      (markups : isMissing analyzers files .markup = false)
      (datas : isMissing analyzers files .data = false)
      (ready : ∀ family, result ≠ .error (.noAnalyzer family)) :
      Course config analyzers project rules files result (scriptCalls project rules files.script)
        (markupCalls config rules files ++ dataCalls rules files)

section Stages

variable {markup : Report}

theorem course_dispatchData (answered : Answers analyzers project rules files.script script)
    (markups : isMissing analyzers files .markup = false)
    (told : (markupCalls config rules files).findSome? (escape? analyzers) = none)
    (batch : before.batchCalls = scriptCalls project rules files.script)
    (single : before.fileCalls = markupCalls config rules files) :
    let done := (dispatchData config analyzers rules files script markup).run.run before
    Course config analyzers project rules files done.1 done.2.batchCalls done.2.fileCalls := by
  intro done
  have defined : done = (dispatchData config analyzers rules files script markup).run.run before :=
    rfl
  rw [dispatchData, show rulesFor config rules .data = rules from rfl] at defined
  have datas := analyzeFiles_cases .data analyzers.data rules files.data before
  rcases ran : (analyzeFiles .data analyzers.data rules files.data).run.run before with
    ⟨result, after⟩
  rw [ran, batch, single] at datas
  obtain ⟨given, calls, reports, rfl, batch, single, all⟩ | ⟨some, none, same⟩ := datas
  · have present := isMissing_data_eq_false_iff.mpr reports.present
    cases given with
    | error escape =>
        rw [Job.run_bind_of_error ran] at defined
        rw [defined, batch]
        exact .brokenData answered markups present
    | ok data =>
        rw [Job.run_bind_of_ok ran] at defined
        obtain ⟨ready, noBatch, noFile⟩ := merged_cases [script, markup, data] files.all after
        rw [← defined] at ready noBatch noFile
        rw [noBatch, noFile, batch, single, all data rfl]
        exact .ended answered markups present ready
  · cases same
    rw [Job.run_bind_of_error ran] at defined
    rw [defined, batch, single]
    exact .noData answered markups told
      (isMissing_eq_true_iff.mpr ⟨some, by rw [AnalyzerSet.nameOf?, none]; rfl⟩)

theorem course_dispatchMarkup (answered : Answers analyzers project rules files.script script)
    (batch : before.batchCalls = scriptCalls project rules files.script)
    (single : before.fileCalls = []) :
    let done := (dispatchMarkup config analyzers rules files script).run.run before
    Course config analyzers project rules files done.1 done.2.batchCalls done.2.fileCalls := by
  intro done
  have defined : done = (dispatchMarkup config analyzers rules files script).run.run before := rfl
  rw [dispatchMarkup, rulesFor_markup] at defined
  let allowed := rules.filter fun rule => rule.key ∉ config.markupExcludedRules
  have markups := analyzeFiles_cases .markup analyzers.markup allowed files.markup before
  rcases ran : (analyzeFiles .markup analyzers.markup allowed files.markup).run.run before with
    ⟨result, after⟩
  rw [ran, batch, single] at markups
  simp only [List.nil_append] at markups
  obtain ⟨given, calls, reports, rfl, batch, single, all⟩ | ⟨some, none, same⟩ := markups
  · have present := isMissing_markup_eq_false_iff.mpr reports.present
    cases given with
    | error escape =>
        rw [Job.run_bind_of_error ran] at defined
        rw [defined, batch]
        exact .brokenMarkup answered present
          ((Reports.eq_error_iff .markup reports).mp rfl)
    | ok markup =>
        rw [Job.run_bind_of_ok ran] at defined
        rw [defined]
        exact course_dispatchData answered present
          (Reports.findSome?_eq_none .markup reports) batch
          (single.trans (all markup rfl))
  · cases same
    rw [Job.run_bind_of_error ran] at defined
    rw [defined, batch, single]
    exact .noMarkup answered
      (isMissing_eq_true_iff.mpr ⟨some, by rw [AnalyzerSet.nameOf?, none]; rfl⟩)

/-- Handing out files takes one of the courses. -/
theorem course_dispatch (config : Configuration) (analyzers : AnalyzerSet) (project : Path)
    (rules : List RuleSetting) (files : ProjectFiles) (batch : before.batchCalls = [])
    (single : before.fileCalls = []) :
    let done := (dispatch config analyzers project rules files).run.run before
    Course config analyzers project rules files done.1 done.2.batchCalls done.2.fileCalls := by
  intro done
  have defined : done = (dispatch config analyzers project rules files).run.run before := rfl
  rw [dispatch, show rulesFor config rules .script = rules from rfl] at defined
  have scripts := analyzeScripts_cases analyzers project rules files.script before
  rcases ran : (analyzeScripts analyzers project rules files.script).run.run before with
    ⟨result, after⟩
  rw [ran, batch, single, List.nil_append] at scripts
  obtain ⟨script, rfl, answered, batch, single⟩ | ⟨some, none, same⟩ |
    ⟨failure, rfl, present, unanswered, batch, single⟩ := scripts
  · rw [Job.run_bind_of_ok ran] at defined
    rw [defined]
    exact course_dispatchMarkup answered batch single
  · cases same
    rw [Job.run_bind_of_error ran] at defined
    rw [defined, batch, single]
    exact .noScripts (isMissing_eq_true_iff.mpr ⟨some, by rw [AnalyzerSet.nameOf?, none]; rfl⟩)
  · rw [Job.run_bind_of_error ran] at defined
    rw [defined, batch, single]
    refine .failed failure ?_ unanswered
    rw [isMissing, AnalyzerSet.nameOf?, Option.isNone_map, Option.isNone_eq_false_iff.mpr present,
      Bool.and_false]

end Stages

/-- A course ends for want of an analyzer exactly at the first family that has files and no
analyzer, unless the scripts or the markup files stop it before that. -/
theorem Course.noAnalyzer_iff {result : Except RunError Report} {batch : List BatchInput}
    {single : List (Family × FileInput)}
    (course : Course config analyzers project rules files result batch single) :
    result = .error (.noAnalyzer family) ↔
      firstMissing? analyzers files = some family ∧
        (family = .script ∨ ∃ script, Answers analyzers project rules files.script script) ∧
        (family = .data →
          (markupCalls config rules files).findSome? (escape? analyzers) = none) := by
  cases course with
  | noScripts scripts =>
      have first : firstMissing? analyzers files = some .script := by
        simp [firstMissing?, Family.all, scripts]
      simp only [first, Except.error.injEq, RunError.noAnalyzer.injEq, Option.some.injEq]
      refine ⟨?_, And.left⟩
      rintro rfl
      exact ⟨rfl, .inl rfl, nofun⟩
  | failed failure scripts unanswered =>
      refine iff_of_false nofun ?_
      rintro ⟨first, rfl | ⟨script, answered⟩, -⟩
      · have missing : isMissing analyzers files .script = true := List.find?_some first
        rw [scripts] at missing
        cases missing
      · exact unanswered script answered
  | noMarkup answered markups =>
      have first : firstMissing? analyzers files = some .markup := by
        simp [firstMissing?, Family.all, isMissing_of_answers answered, markups]
      simp only [first, Except.error.injEq, RunError.noAnalyzer.injEq, Option.some.injEq]
      refine ⟨?_, And.left⟩
      rintro rfl
      exact ⟨rfl, .inr ⟨_, answered⟩, nofun⟩
  | brokenMarkup answered markups breaks =>
      refine iff_of_false nofun ?_
      rintro ⟨first, -, told⟩
      cases family with
      | script =>
          have missing : isMissing analyzers files .script = true := List.find?_some first
          cases (isMissing_of_answers answered).symm.trans missing
      | markup =>
          have missing : isMissing analyzers files .markup = true := List.find?_some first
          cases markups.symm.trans missing
      | data => cases breaks.symm.trans (told rfl)
  | noData answered markups told datas =>
      have first : firstMissing? analyzers files = some .data := by
        simp [firstMissing?, Family.all, isMissing_of_answers answered, markups, datas]
      simp only [first, Except.error.injEq, RunError.noAnalyzer.injEq, Option.some.injEq]
      exact ⟨fun same => ⟨same, .inr ⟨_, answered⟩, fun _ => told⟩, And.left⟩
  | brokenData answered markups datas =>
      have first : firstMissing? analyzers files = none := by
        simp [firstMissing?, Family.all, isMissing_of_answers answered, markups, datas]
      exact iff_of_false nofun (by simp [first])
  | ended answered markups datas ready =>
      have first : firstMissing? analyzers files = none := by
        simp [firstMissing?, Family.all, isMissing_of_answers answered, markups, datas]
      exact iff_of_false (ready family) (by simp [first])

end Run

end Baseline
