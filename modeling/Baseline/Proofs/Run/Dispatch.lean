import Mathlib.Data.List.Basic
import Baseline.Proofs.Run.Course

/-!
# Which analyzer is called for what

An analysis calls the batch analyzer once for all scripts, and the analyzer of each other family
once for each of its files. It ends at the first family that has files and no analyzer, and depends
on nothing but what the analyzers answer to the calls that it makes.
-/

namespace Baseline

namespace Job

variable {α β : Type} {job other : Job α} {next otherNext : α → Job β} {agree : Trace → Prop}

/-- The calls of one trace are among those of another. -/
structure Within (trace later : Trace) : Prop where
  batch : trace.batchCalls ⊆ later.batchCalls
  files : trace.fileCalls ⊆ later.fileCalls

theorem Within.refl (trace : Trace) : Within trace trace := ⟨fun _ => id, fun _ => id⟩

theorem Within.trans {trace later last : Trace} (first : Within trace later)
    (second : Within later last) : Within trace last :=
  ⟨fun _ member => second.batch (first.batch member),
    fun _ member => second.files (first.files member)⟩

/-- A part of a run keeps the calls that were made before it. -/
def Grows (job : Job α) : Prop := ∀ before, Within before (job.run.run before).2

theorem Grows.bind (first : Grows job) (second : ∀ a, Grows (next a)) : Grows (job >>= next) := by
  intro before
  have begun := first before
  rcases ran : job.run.run before with ⟨error | a, after⟩
  · rw [run_bind_of_error ran]
    rwa [ran] at begun
  · rw [run_bind_of_ok ran]
    rw [ran] at begun
    exact begun.trans (second a after)

/-- Whatever agrees with the trace that a part of a run leaves goes the same way as that part. -/
def Determines (agree : Trace → Prop) (job other : Job α) : Prop :=
  ∀ before, agree (job.run.run before).2 → other.run.run before = job.run.run before

theorem Determines.refl (agree : Trace → Prop) (job : Job α) : Determines agree job job :=
  fun _ _ => rfl

/-- As calls are never forgotten, what agrees with a whole run agrees with each of its parts. -/
theorem Determines.bind (antitone : ∀ trace later, Within trace later → agree later → agree trace)
    (first : Determines agree job other) (second : ∀ a, Determines agree (next a) (otherNext a))
    (grown : ∀ a, Grows (next a)) :
    Determines agree (job >>= next) (other >>= otherNext) := by
  intro before agrees
  rcases ran : job.run.run before with ⟨error | a, after⟩
  · rw [run_bind_of_error ran] at agrees ⊢
    have same := first before
    rw [ran] at same
    exact run_bind_of_error (same agrees)
  · rw [run_bind_of_ok ran] at agrees ⊢
    have same := first before
    rw [ran] at same
    rw [run_bind_of_ok (same (antitone _ _ (grown a after) agrees))]
    exact second a after agrees

end Job

namespace Execution

variable {analyzer other : FileAnalyzer} {rules : List RuleSetting} {linterId : Option String}
  {title : String} {files : FileGroup} {inputs : List FileInput}

/-- An analyzer that answers alike to the inputs that another one comes to comes to these and to the
same entries. -/
theorem reached_congr
    (same : ∀ input ∈ reached analyzer inputs, other.analyze input = analyzer.analyze input) :
    reached other inputs = reached analyzer inputs ∧
      inputs.mapM (entryOf other) = inputs.mapM (entryOf analyzer) := by
  induction inputs with
  | nil => exact ⟨rfl, rfl⟩
  | cons input rest induction =>
      have first : reportOf other input = reportOf analyzer input := by
        refine reportOf_congr (same input ?_)
        rw [reached]
        split <;> exact List.mem_cons_self
      have entry : entryOf other input = entryOf analyzer input := by
        rw [entryOf, entryOf, first]
      rw [reached, reached, List.mapM_cons, List.mapM_cons, entry, first]
      cases reported : reportOf analyzer input with
      | error escape =>
          rw [entryOf, reported]
          exact ⟨rfl, rfl⟩
      | ok report =>
          simp only [reached, reported] at same
          obtain ⟨reach, entries⟩ :=
            induction fun other member => same other (List.mem_cons_of_mem _ member)
          exact ⟨congrArg _ reach, by rw [entries]⟩

theorem isOk_mapM_entryOf (analyzer : FileAnalyzer) (inputs : List FileInput) :
    (inputs.mapM (entryOf analyzer)).isOk =
      inputs.all fun input => (reportOf analyzer input).isOk := by
  induction inputs with
  | nil => rfl
  | cons input rest induction =>
      rw [List.mapM_cons, List.all_cons, ← induction, entryOf]
      cases reportOf analyzer input with
      | error escape => rfl
      | ok report => cases rest.mapM (entryOf analyzer) <;> rfl

/-- The reports of a group depend on the analyzer only through its answers to the calls. -/
theorem run_congr
    (same : ∀ input ∈ calls analyzer rules linterId files,
      other.analyze input = analyzer.analyze input) :
    run other rules linterId files = run analyzer rules linterId files := by
  rw [run, run, (reached_congr same).2]

theorem calls_congr
    (same : ∀ input ∈ calls analyzer rules linterId files,
      other.analyze input = analyzer.analyze input) :
    calls other rules linterId files = calls analyzer rules linterId files :=
  (reached_congr same).1

theorem groupLogs_congr
    (same : ∀ input ∈ calls analyzer rules linterId files,
      other.analyze input = analyzer.analyze input) :
    groupLogs other rules linterId title files = groupLogs analyzer rules linterId title files := by
  obtain ⟨reach, entries⟩ := reached_congr same
  have warnings : (calls analyzer rules linterId files).filterMap (warning? other) =
      (calls analyzer rules linterId files).filterMap (warning? analyzer) := by
    refine List.filterMap_congr fun input member => ?_
    simp only [warning?, attempt, same input member]
  unfold groupLogs logs
  rw [← isOk_mapM_entryOf, ← isOk_mapM_entryOf, entries, reach, ← calls, warnings]

end Execution

namespace AnalyzerSet

theorem nameOf?_eq_map_single? {analyzers : AnalyzerSet} {family : Family}
    (single : family ≠ .script) :
    analyzers.nameOf? family = (analyzers.single? family).map FileAnalyzer.name := by
  cases family with
  | script => exact (single rfl).elim
  | markup => rfl
  | data => rfl

end AnalyzerSet

namespace Run

variable {fs : FileSystem} {config : Configuration} {analyzers other : AnalyzerSet}
  {spec : ProjectSpec} {rules : List RuleSetting} {files : ProjectFiles} {group : FileGroup}
  {family : Family} {before : Trace} {project : Path} {report : Report}

/-! ## What an analysis depends on -/

/-- Two analyzer sets cannot be told apart by the calls of a trace: families with files have
analyzers of the same names, and these answer the same to each of the calls. -/
structure Agrees (files : ProjectFiles) (analyzers other : AnalyzerSet) (trace : Trace) : Prop where
  named : ∀ family, (files.group family).isEmpty = false →
    other.nameOf? family = analyzers.nameOf? family
  batch : ∀ call ∈ trace.batchCalls,
    other.script.map (·.analyze call) = analyzers.script.map (·.analyze call)
  single : ∀ call ∈ trace.fileCalls,
    (other.single? call.1).map (·.analyze call.2) =
      (analyzers.single? call.1).map (·.analyze call.2)

theorem Agrees.anti {trace later : Trace} (within : Job.Within trace later)
    (agrees : Agrees files analyzers other later) : Agrees files analyzers other trace :=
  ⟨agrees.named, fun call member => agrees.batch call (within.batch member),
    fun call member => agrees.single call (within.files member)⟩

theorem grows_analyzeFiles (family : Family) (analyzer : Option FileAnalyzer)
    (rules : List RuleSetting) (group : FileGroup) :
    Job.Grows (analyzeFiles family analyzer rules group) := by
  intro before
  obtain ⟨-, calls, -, -, batch, single, -⟩ | ⟨-, -, same⟩ :=
    analyzeFiles_cases family analyzer rules group before
  · exact ⟨by rw [batch]; exact fun _ => id, by rw [single]; exact List.subset_append_left _ _⟩
  · rw [same]
    exact .refl before

theorem grows_merged (reports : List Report) (all : FileGroup) :
    Job.Grows (orFail .merge (Report.merge (some all) reports) >>= fun report =>
      checkCompleteness report all >>= fun _ => pure report) := by
  intro before
  obtain ⟨-, batch, single⟩ := merged_cases reports all before
  exact ⟨by rw [batch]; exact fun _ => id, by rw [single]; exact fun _ => id⟩

theorem called_of_analyzeScripts {caller : BatchAnalyzer} {scripts : FileGroup}
    (some : scripts.isEmpty = false) (present : analyzers.script = .some caller) :
    ⟨rules, unixPath project.text, scripts⟩ ∈
      ((analyzeScripts analyzers project rules scripts).run.run before).2.batchCalls := by
  have once : scriptCalls project rules scripts = [⟨rules, unixPath project.text, scripts⟩] :=
    if_neg (by simp [some])
  obtain ⟨-, -, -, batch, -⟩ | ⟨-, none, -⟩ | ⟨-, -, -, -, batch, -⟩ :=
    analyzeScripts_cases analyzers project rules scripts before
  · simp [batch, once]
  · simp [present] at none
  · simp [batch, once]

theorem called_of_analyzeFiles {caller : FileAnalyzer} {call : FileInput}
    (some : group.isEmpty = false)
    (member : call ∈ Execution.calls caller rules (linterFor family) group) :
    (family, call) ∈
      ((analyzeFiles family (.some caller) rules group).run.run before).2.fileCalls := by
  rw [analyzeFiles_run family caller before some]
  exact List.mem_append_right _ (List.mem_map_of_mem member)

theorem determines_analyzeScripts (analyzers other : AnalyzerSet) (project : Path)
    (rules : List RuleSetting) (files : ProjectFiles) :
    Job.Determines (Agrees files analyzers other)
      (analyzeScripts analyzers project rules files.script)
      (analyzeScripts other project rules files.script) := by
  intro before agrees
  cases empty : files.script.isEmpty with
  | true => rw [analyzeScripts, analyzeScripts, if_pos empty, if_pos empty]
  | false =>
      have named : other.script.map BatchAnalyzer.name = analyzers.script.map BatchAnalyzer.name :=
        agrees.named .script empty
      cases here : analyzers.script with
      | none =>
          have there : other.script = none := by simpa [here] using named
          rw [analyzeScripts, analyzeScripts, here, there]
      | some caller =>
          obtain ⟨caller', there⟩ : ∃ caller', other.script = some caller' := by
            cases there : other.script <;> simp [here, there] at named ⊢
          have same := agrees.batch _ (called_of_analyzeScripts empty here)
          simp only [here, there, Option.map_some, Option.some.injEq] at named same
          rw [analyzeScripts, analyzeScripts, here, there]
          dsimp only
          rw [named, same]

theorem determines_analyzeFiles (analyzers other : AnalyzerSet) (rules : List RuleSetting)
    (files : ProjectFiles) (single : family ≠ .script) :
    Job.Determines (Agrees files analyzers other)
      (analyzeFiles family (analyzers.single? family) rules (files.group family))
      (analyzeFiles family (other.single? family) rules (files.group family)) := by
  intro before agrees
  cases empty : (files.group family).isEmpty with
  | true => rw [analyzeFiles.eq_def, analyzeFiles.eq_def, if_pos empty, if_pos empty]
  | false =>
      have named := agrees.named family empty
      rw [AnalyzerSet.nameOf?_eq_map_single? single, AnalyzerSet.nameOf?_eq_map_single? single]
        at named
      cases here : analyzers.single? family with
      | none =>
          have there : other.single? family = none := by simpa [here] using named
          rw [there]
      | some caller =>
          obtain ⟨caller', there⟩ : ∃ caller', other.single? family = some caller' := by
            cases there : other.single? family <;> simp [here, there] at named ⊢
          have same : ∀ call ∈ Execution.calls caller rules (linterFor family)
              (files.group family), caller'.analyze call = caller.analyze call := by
            intro call member
            rw [here] at agrees
            have answered := agrees.single _ (called_of_analyzeFiles empty member)
            simpa only [here, there, Option.map_some, Option.some.injEq] using answered
          rw [there, analyzeFiles_run family _ before empty, analyzeFiles_run family _ before empty,
            Execution.run_congr same, Execution.groupLogs_congr same, Execution.calls_congr same]

/-- Handing out files goes the same way for every analyzer set that answers the calls it has made in
the same way. -/
theorem determines_dispatch (config : Configuration) (analyzers other : AnalyzerSet)
    (project : Path) (rules : List RuleSetting) (files : ProjectFiles) :
    Job.Determines (Agrees files analyzers other) (dispatch config analyzers project rules files)
      (dispatch config other project rules files) := by
  have anti : ∀ trace later, Job.Within trace later → Agrees files analyzers other later →
      Agrees files analyzers other trace := fun _ _ => Agrees.anti
  unfold dispatch dispatchMarkup dispatchData
  refine .bind anti (determines_analyzeScripts analyzers other project _ files) (fun script => ?_)
    fun script => (grows_analyzeFiles _ _ _ _).bind fun markup =>
      (grows_analyzeFiles _ _ _ _).bind fun data => grows_merged _ _
  refine .bind anti (determines_analyzeFiles analyzers other _ files (by decide)) (fun markup => ?_)
    fun markup => (grows_analyzeFiles _ _ _ _).bind fun data => grows_merged _ _
  exact .bind anti (determines_analyzeFiles analyzers other _ files (by decide))
    (fun data => .refl _ _) fun data => grows_merged _ _

/-! ## The calls of an analysis -/

theorem keys_scriptCalls (project : Path) (rules : List RuleSetting) (scripts : FileGroup) :
    (scriptCalls project rules scripts).flatMap (·.files.keys) = scripts.keys := by
  unfold scriptCalls
  split
  next none => exact (Keyed.isEmpty_iff.mp none).symm
  next => simp

theorem paths_fileCalls (family : Family) (rules : List RuleSetting) (linterId : Option String)
    (group : FileGroup) : (fileCalls family rules linterId group).map (·.2.path) = group.keys := by
  rw [fileCalls, List.map_map]
  rfl

/-- Every analyzer is called for the files of its family and no others: the batch analyzer once for
all scripts, the others once for each file, and no path is given to two of them. -/
structure Dispatched (config : Configuration) (project : Path) (rules : List RuleSetting)
    (files : ProjectFiles) (trace : Trace) : Prop where
  scripts : trace.batchCalls = scriptCalls project rules files.script
  others : trace.fileCalls = markupCalls config rules files ++ dataCalls rules files
  apart : (trace.batchCalls.flatMap (·.files.keys) ++ trace.fileCalls.map (·.2.path)).Nodup

theorem Dispatched.of_calls {trace : Trace} (filed : files.IsFiled)
    (scripts : trace.batchCalls = scriptCalls project rules files.script)
    (others : trace.fileCalls = markupCalls config rules files ++ dataCalls rules files) :
    Dispatched config project rules files trace := by
  refine ⟨scripts, others, ?_⟩
  rw [scripts, others, keys_scriptCalls, List.map_append, markupCalls, dataCalls, paths_fileCalls,
    paths_fileCalls, ← List.append_assoc, ← keys_all filed]
  exact files.all.nodup_keys

theorem Course.calls_of_ok {batch : List BatchInput} {single : List (Family × FileInput)}
    (course : Course config analyzers project rules files (.ok report) batch single) :
    batch = scriptCalls project rules files.script ∧
      single = markupCalls config rules files ++ dataCalls rules files := by
  cases course
  exact ⟨rfl, rfl⟩

theorem Course.calls_of_noAnalyzer {batch : List BatchInput} {single : List (Family × FileInput)}
    (course : Course config analyzers project rules files (.error (.noAnalyzer family)) batch
      single) :
    batch = (if family = .script then [] else scriptCalls project rules files.script) ∧
      single = if family = .data then markupCalls config rules files else [] := by
  cases course with
  | noScripts | noMarkup | noData => exact ⟨rfl, rfl⟩
  | ended answered markups datas ready => exact (ready family rfl).elim

/-- An analysis that returns has called the analyzers as its files ask for. It ends for want of an
analyzer exactly at the first family that has files and none, unless the scripts have stopped it
before or the markup files have broken it off, and then no analyzer of that family or a later one
has been called. And it goes the same way with any other analyzers that answer its calls alike,
whatever the families without files have. -/
theorem analyze_dispatches (found : (perform (collectFiles fs config spec)).1 = .ok files) :
    let project := projectDirectory fs config spec
    let outcome := perform (analyze fs config analyzers spec rules)
    (∀ report, outcome.1 = .ok report → Dispatched config project rules files outcome.2) ∧
      (∀ family, (outcome.1 = .error (.noAnalyzer family) ↔
        firstMissing? analyzers files = some family ∧
          (family = .script ∨ ∃ script, Answers analyzers project rules files.script script) ∧
          (family = .data →
            (markupCalls config rules files).findSome? (escape? analyzers) = none))) ∧
      (∀ family, outcome.1 = .error (.noAnalyzer family) →
        outcome.2.batchCalls =
            (if family = .script then [] else scriptCalls project rules files.script) ∧
          outcome.2.fileCalls = if family = .data then markupCalls config rules files else []) ∧
      ∀ other, Agrees files analyzers other outcome.2 →
        perform (analyze fs config other spec rules) = outcome := by
  intro project outcome
  have filed := (collect_of_ok (collect_of_found found)).1
  obtain ⟨before, noBatch, noFile, handed⟩ := analyze_eq_dispatch rules found
  have course : Course config analyzers project rules files outcome.1 outcome.2.batchCalls
      outcome.2.fileCalls := by
    change Course _ _ _ _ _ (perform _).1 (perform _).2.batchCalls (perform _).2.fileCalls
    rw [handed analyzers]
    exact course_dispatch config analyzers project rules files noBatch noFile
  refine ⟨fun report returned => ?_, fun family => course.noAnalyzer_iff, fun family ended => ?_,
    fun other agrees => ?_⟩
  · rw [returned] at course
    exact .of_calls filed course.calls_of_ok.1 course.calls_of_ok.2
  · rw [ended] at course
    exact course.calls_of_noAnalyzer
  · change Agrees files analyzers other (perform _).2 at agrees
    change _ = perform _
    rw [handed analyzers] at agrees ⊢
    rw [handed other]
    exact determines_dispatch config analyzers other project rules files before agrees

theorem analyze_dispatches_scriptProject :
    (perform (collectFiles scriptProject scriptConfiguration { name := "p" })).1 = .ok scriptFiles ∧
      Dispatched scriptConfiguration
        (projectDirectory scriptProject scriptConfiguration { name := "p" }) [] scriptFiles
        (perform (analyze scriptProject scriptConfiguration strayAnalyzers { name := "p" } [])).2 ∧
      (perform (analyze scriptProject scriptConfiguration {} { name := "p" } [])).1 =
        .error (.noAnalyzer .script) := by
  have found : (perform (collectFiles scriptProject scriptConfiguration { name := "p" })).1 =
      .ok scriptFiles := Except.eq_ok_getD_of_isOk (by decide +kernel) ∅
  have done : (perform (analyze scriptProject scriptConfiguration strayAnalyzers { name := "p" }
      [])).1.isOk = true := by decide +kernel
  obtain ⟨report, returned⟩ := Except.exists_of_isOk done
  exact ⟨found, (analyze_dispatches found).1 report returned,
    ((analyze_dispatches found).2.1 .script).mpr ⟨by decide +kernel, .inl rfl, nofun⟩⟩

end Run

end Baseline
