import Baseline.Analyzer.DataSyntax
import Baseline.Proofs.Configuration
import Baseline.Proofs.Discovery.Invariant
import Baseline.Proofs.Execution
import Baseline.Proofs.Report.Merge
import Baseline.Run

/-!
# The aggregated report of a project

An analysis finds the files, has each family analyzed and merges the reports. As families share no
path, reports conflict only where the batch analyzer reports on a markup or data file; otherwise the
merged report has the entries of the batch analyzer, then one for each markup file and each data
file, and the warnings tell which scripts it passed over and which files it made up. So it is unless
the failure of an analyzer on a file does not tell what it is, which ends the analysis.
-/

namespace Baseline

namespace Job

variable {α β : Type} {job : Job α} {next : α → Job β} {before after : Trace} {a : α}

theorem run_bind_of_ok (ran : job.run.run before = (.ok a, after)) :
    (job >>= next).run.run before = (next a).run.run after := by
  rw [ExceptT.run_bind, StateT.run_bind, ran]
  rfl

theorem run_bind_of_error {error : RunError} (failed : job.run.run before = (.error error, after)) :
    (job >>= next).run.run before = (.error error, after) := by
  rw [ExceptT.run_bind, StateT.run_bind, failed]
  rfl

theorem run_bind_get {next : Trace → Job β} :
    (get >>= next).run.run before = (next before).run.run before := rfl

theorem run_bind_modify (change : Trace → Trace) {next : Unit → Job β} :
    (modify change >>= next).run.run before = (next ()).run.run (change before) := rfl

end Job

namespace AnalyzerSet

/-- The analyzer of a family whose files are analyzed one by one. -/
def single? (analyzers : AnalyzerSet) : Family → Option FileAnalyzer
  | .script => none
  | .markup => analyzers.markup
  | .data => analyzers.data

end AnalyzerSet

namespace Run

variable {fs : FileSystem} {config : Configuration} {analyzers : AnalyzerSet} {spec : ProjectSpec}
  {rules : List RuleSetting} {files : ProjectFiles} {group : FileGroup} {family : Family}
  {before after : Trace} {project : Path} {report script markup data : Report} {path : String}

/-! ## Warnings of a run -/

/-- The warnings that are about the run itself, and not about one file of it. -/
def notices (logs : List LogRecord) : List LogRecord :=
  logs.filter fun record => record.level == .warning && record.channel == channel

/-- The warning about some paths, if there are any. -/
def noticeOf (opening : Nat → String) (paths : List String) : List LogRecord :=
  if paths.isEmpty then []
  else [⟨.warning, channel, opening paths.length ++ ", ".intercalate paths⟩]

/-- The warning about files without a report. -/
def missingNotice : List String → List LogRecord :=
  noticeOf fun count => s!"No result reported for {count} file(s): "

/-- The warning about reports without a file. -/
def unexpectedNotice : List String → List LogRecord :=
  noticeOf fun count => s!"Results reported for {count} undiscovered file(s): "

theorem notices_append (first second : List LogRecord) :
    notices (first ++ second) = notices first ++ notices second :=
  List.filter_append first second

theorem notices_append_of_debug {first second : List LogRecord}
    (quiet : ∀ record ∈ second, record.level = .debug) :
    notices (first ++ second) = notices first := by
  have none : notices second = [] := by
    rw [notices, List.filter_eq_nil_iff]
    intro record member
    simp [quiet record member]
  rw [notices_append, none, List.append_nil]

theorem notices_append_of_channel {first second : List LogRecord}
    (elsewhere : ∀ record ∈ second, record.channel = Execution.channel) :
    notices (first ++ second) = notices first := by
  have none : notices second = [] := by
    have different : (Execution.channel == channel) = false := by decide
    rw [notices, List.filter_eq_nil_iff]
    intro record member
    simp [elsewhere record member, different]
  rw [notices_append, none, List.append_nil]

theorem notices_noticeOf (opening : Nat → String) (paths : List String) :
    notices (noticeOf opening paths) = noticeOf opening paths := by
  unfold noticeOf
  split
  · rfl
  · simp [notices]

/-! ## The calls for single files -/

/-- The calls of the analyzer of a family: one for each file. -/
def fileCalls (family : Family) (rules : List RuleSetting) (linterId : Option String)
    (group : FileGroup) : List (Family × FileInput) :=
  group.entries.map fun (path, file) =>
    (family, { path, content := file.content, rules, linterId, language := file.language })

/-- The calls for markup files: with the linter for them, and without the rules that are excluded
there. -/
def markupCalls (config : Configuration) (rules : List RuleSetting) (files : ProjectFiles) :
    List (Family × FileInput) :=
  fileCalls .markup (rules.filter fun rule => rule.key ∉ config.markupExcludedRules) (some "html")
    files.markup

/-- The calls for data files: with no linter, and with all rules. -/
def dataCalls (rules : List RuleSetting) (files : ProjectFiles) : List (Family × FileInput) :=
  fileCalls .data rules none files.data

/-- What breaks an analysis off at a call for a single file: what is met when the failure on that
file is asked what it is, and does not tell. -/
def escape? (analyzers : AnalyzerSet) (call : Family × FileInput) : Option Escape :=
  match analyzers.single? call.1 with
  | none => none
  | some analyzer =>
    match Execution.attempt analyzer call.2 with
    | .ok _ => none
    | .error failure =>
      match failure.report with
      | .ok _ => none
      | .error escape => some escape

/-- What breaks an analysis off first, markup files before data files. -/
def firstEscape? (config : Configuration) (analyzers : AnalyzerSet) (rules : List RuleSetting)
    (files : ProjectFiles) : Option Escape :=
  (markupCalls config rules files ++ dataCalls rules files).findSome? (escape? analyzers)

theorem escape?_eq_some_iff {caller : FileAnalyzer} {input : FileInput} {escape : Escape}
    (present : analyzers.single? family = some caller) :
    escape? analyzers (family, input) = some escape ↔
      Execution.reportOf caller input = .error escape := by
  simp only [escape?, present, Execution.reportOf]
  cases Execution.attempt caller input with
  | ok report => simp [Execution.kept]
  | error failure => cases told : failure.report <;> simp [Execution.kept, Except.map, told]

theorem escape?_eq_none_iff {caller : FileAnalyzer} {input : FileInput}
    (present : analyzers.single? family = some caller) :
    escape? analyzers (family, input) = none ↔
      ∃ report, Execution.reportOf caller input = .ok report := by
  cases reported : Execution.reportOf caller input with
  | ok report =>
      refine iff_of_true (Option.eq_none_iff_forall_ne_some.mpr fun escape breaks => ?_) ⟨_, rfl⟩
      cases reported.symm.trans ((escape?_eq_some_iff present).mp breaks)
  | error escape => simp [(escape?_eq_some_iff present).mpr reported]

theorem rulesFor_markup (config : Configuration) (rules : List RuleSetting) :
    rulesFor config rules .markup =
      rules.filter fun rule => rule.key ∉ config.markupExcludedRules := by
  simp [rulesFor, withoutRules]

theorem map_inputsOf (family : Family) (rules : List RuleSetting) (linterId : Option String)
    (group : FileGroup) :
    ((Execution.inputsOf rules linterId group).map fun input => (family, input)) =
      fileCalls family rules linterId group := by
  rw [Execution.inputsOf, List.map_map]
  rfl

theorem fileCalls_of_isEmpty {linterId : Option String} (none : group.isEmpty = true) :
    fileCalls family rules linterId group = [] := by
  rw [fileCalls, List.isEmpty_iff.mp none, List.map_nil]

/-! ## The stages of an analysis -/

/-- What the batch analyzer reports on the scripts of a project: nothing if there are none. -/
inductive Answers (analyzers : AnalyzerSet) (project : Path) (rules : List RuleSetting)
    (scripts : FileGroup) : Report → Prop where
  | nothing (none : scripts.isEmpty = true) : Answers analyzers project rules scripts ∅
  | reply {analyzer reply report} (some : scripts.isEmpty = false)
      (present : analyzers.script = .some analyzer)
      (replied : analyzer.analyze ⟨rules, unixPath project.text, scripts⟩ = .ok reply)
      (read : Report.ofReply reply = .ok report) : Answers analyzers project rules scripts report

/-- What is found is filed by family, and finding it says nothing but debug messages. -/
theorem collect_of_ok
    (found : (collect fs none config spec project).run.run before = (.ok files, after)) :
    files.IsFiled ∧ notices after.logs = notices before.logs := by
  unfold collect at found
  rw [Job.run_bind_get, Journal.after_none] at found
  dsimp only at found
  generalize gathered : Discovery.collect fs (passFor none config spec) spec project = outcome
    at found
  have quietly : Discovery.Quietly ProjectFiles.IsFiled outcome.files outcome.logs := by
    rw [← gathered]
    exact Discovery.quietly_collect ProjectFiles.keptByAdding_isFiled ProjectFiles.isFiled_empty
  rw [log, Job.run_bind_modify] at found
  cases failed : outcome.failure with
  | some e =>
      rw [failed] at found
      cases found
  | none =>
      rw [failed] at found
      cases found
      refine ⟨quietly.kept, ?_⟩
      rw [notices_append_of_debug (by simp), notices_append_of_debug quietly.quiet]

theorem collect_of_found (found : (perform (collectFiles fs config spec)).1 = .ok files) :
    (collect fs none config spec (projectDirectory fs config spec)).run.run {} =
      (.ok files, (perform (collectFiles fs config spec)).2) := by
  rw [← found]
  rfl

theorem analyzeScripts_of_answers (before : Trace)
    (answered : Answers analyzers project rules group script) :
    ∃ after, (analyzeScripts analyzers project rules group).run.run before = (.ok script, after) ∧
      notices after.logs = notices before.logs := by
  unfold analyzeScripts
  cases answered with
  | nothing none =>
      rw [if_pos none]
      exact ⟨before, rfl, rfl⟩
  | reply some present replied read =>
      rw [if_neg (by simp [some]), present]
      dsimp only
      rw [say, log, Job.run_bind_modify, Job.run_bind_modify, replied, orFail, pure_bind, read]
      refine ⟨_, rfl, ?_⟩
      rw [notices_append_of_debug (by simp)]

theorem groupLogs_channel {analyzer : FileAnalyzer} {linter : Option String} {title : String} :
    ∀ record ∈ Execution.groupLogs analyzer rules linter title group,
      record.channel = Execution.channel := by
  intro record member
  unfold Execution.groupLogs at member
  split at member
  · cases member
  · simp only [Execution.logs, List.mem_append, List.mem_cons, List.mem_filterMap] at member
    rcases member with (rfl | ⟨input, -, warned⟩) | ended
    · rfl
    · unfold Execution.warning? Execution.complaint? at warned
      split at warned
      · cases warned
      · split at warned
        · cases warned
          rfl
        · cases warned
    · split at ended
      · rw [List.mem_singleton.mp ended]
      · cases ended

/-- What is reported on a family of single files: nothing if there are none, else what their
analyzer makes of them, if there is one. -/
inductive Reports (analyzer : Option FileAnalyzer) (rules : List RuleSetting)
    (linterId : Option String) (group : FileGroup) : Except Escape Report → Prop where
  | nothing (none : group.isEmpty = true) : Reports analyzer rules linterId group (.ok ∅)
  | run {caller} (some : group.isEmpty = false) (present : analyzer = .some caller) :
      Reports analyzer rules linterId group (Execution.run caller rules linterId group)

theorem exists_reports {analyzer : Option FileAnalyzer} (rules : List RuleSetting)
    (linterId : Option String) (present : group.isEmpty = false → analyzer.isSome = true) :
    ∃ ran, Reports analyzer rules linterId group ran := by
  cases empty : group.isEmpty with
  | true => exact ⟨_, .nothing empty⟩
  | false =>
      obtain ⟨caller, rfl⟩ := Option.isSome_iff_exists.mp (present empty)
      exact ⟨_, .run empty rfl⟩

theorem Reports.keys_eq {analyzer : Option FileAnalyzer} {linterId : Option String}
    (reports : Reports analyzer rules linterId group (.ok report)) : report.keys = group.keys := by
  generalize given : (Except.ok report : Except Escape Report) = ran at reports
  cases reports with
  | nothing none =>
      cases given
      exact (Keyed.isEmpty_iff.mp none).symm
  | run => exact Execution.keys_of_run given.symm

theorem Reports.present {analyzer : Option FileAnalyzer} {linterId : Option String}
    {ran : Except Escape Report} (reports : Reports analyzer rules linterId group ran) :
    group.isEmpty = false → analyzer.isSome = true := by
  intro some
  cases reports with
  | nothing none => cases none.symm.trans some
  | run _ present => simp [present]

/-- The analysis of a family is broken off by what its first call that breaks off meets. -/
theorem Reports.eq_error_iff (family : Family) {linterId : Option String}
    {ran : Except Escape Report} {escape : Escape}
    (reports : Reports (analyzers.single? family) rules linterId group ran) :
    ran = .error escape ↔
      (fileCalls family rules linterId group).findSome? (escape? analyzers) = some escape := by
  cases reports with
  | nothing none => simp [fileCalls_of_isEmpty none]
  | run _ present =>
      rw [← map_inputsOf, List.findSome?_map, List.findSome?_eq_some_iff,
        Execution.run_eq_error_iff]
      simp only [Function.comp_apply, escape?_eq_some_iff present, escape?_eq_none_iff present,
        and_comm]

theorem Reports.findSome?_eq_none (family : Family) {linterId : Option String}
    (reports : Reports (analyzers.single? family) rules linterId group (.ok report)) :
    (fileCalls family rules linterId group).findSome? (escape? analyzers) = none := by
  refine Option.eq_none_iff_forall_ne_some.mpr fun escape breaks => ?_
  cases (Reports.eq_error_iff family reports).mpr breaks

theorem analyzeFiles_run (family : Family) (caller : FileAnalyzer) (before : Trace)
    (some : group.isEmpty = false) :
    (analyzeFiles family (.some caller) rules group).run.run before =
      ((Execution.run caller rules (linterFor family) group).mapError .execution,
        { before with
          logs := before.logs ++
            Execution.groupLogs caller rules (linterFor family) (titleOf family) group
          fileCalls := before.fileCalls ++
            (Execution.calls caller rules (linterFor family) group).map fun input =>
              (family, input) }) := by
  unfold analyzeFiles
  rw [if_neg (by simp [some])]
  dsimp only
  rw [log, Job.run_bind_modify, Job.run_bind_modify]
  cases Execution.run caller rules (linterFor family) group <;> rfl

theorem analyzeFiles_of_reports (family : Family) (before : Trace) {analyzer : Option FileAnalyzer}
    {ran : Except Escape Report} (reports : Reports analyzer rules (linterFor family) group ran) :
    ∃ after,
      (analyzeFiles family analyzer rules group).run.run before =
        (ran.mapError .execution, after) ∧ notices after.logs = notices before.logs := by
  cases reports with
  | nothing none =>
      rw [analyzeFiles.eq_def, if_pos none]
      exact ⟨before, rfl, rfl⟩
  | run some present =>
      rw [present, analyzeFiles_run family _ before some]
      exact ⟨_, rfl, notices_append_of_channel groupLogs_channel⟩

theorem warn_run (opening : Nat → String) (paths : List String) :
    (if paths.isEmpty then pure () else
        say .warning (opening paths.length ++ ", ".intercalate paths) : Job Unit).run.run before =
      (.ok (), { before with logs := before.logs ++ noticeOf opening paths }) := by
  unfold noticeOf
  split
  · simp
    rfl
  · rfl

theorem checkCompleteness_run :
    (checkCompleteness report group).run.run before =
      (.ok (), { before with
        logs := before.logs ++ missingNotice (report.missing group) ++
          unexpectedNotice (report.unexpected group) }) := by
  unfold checkCompleteness
  dsimp only
  rw [Job.run_bind_of_ok (warn_run (fun count => s!"No result reported for {count} file(s): ") _)]
  exact warn_run (fun count => s!"Results reported for {count} undiscovered file(s): ") _

/-- An analysis whose files are found and whose batch analyzer answers comes to merge that answer
with what is reported on the markup files and on the data files, unless one of these is broken
off. -/
theorem analyze_run {ranMarkup ranData : Except Escape Report}
    (found : (perform (collectFiles fs config spec)).1 = .ok files)
    (answered : Answers analyzers (projectDirectory fs config spec) rules files.script script)
    (markups : Reports analyzers.markup (rulesFor config rules .markup) (linterFor .markup)
      files.markup ranMarkup)
    (datas : Reports analyzers.data (rulesFor config rules .data) (linterFor .data) files.data
      ranData) :
    ∃ after, notices after.logs = [] ∧
      perform (analyze fs config analyzers spec rules) =
        (orFail .execution ranMarkup >>= fun markup =>
          orFail .execution ranData >>= fun data =>
            orFail .merge (Report.merge (some files.all) [script, markup, data]) >>= fun report =>
              checkCompleteness report files.all >>= fun _ => pure report).run.run after := by
  have collected := collect_of_found found
  obtain ⟨afterScripts, scripts, quietScripts⟩ :=
    analyzeScripts_of_answers (perform (collectFiles fs config spec)).2 answered
  obtain ⟨afterMarkup, markupRan, quietMarkup⟩ :=
    analyzeFiles_of_reports .markup afterScripts markups
  obtain ⟨afterData, dataRan, quietData⟩ := analyzeFiles_of_reports .data afterMarkup datas
  have quiet : notices afterMarkup.logs = [] := by
    rw [quietMarkup, quietScripts, (collect_of_ok collected).2]
    rfl
  unfold perform analyze analyzeAt
  rw [Job.run_bind_of_ok collected]
  rw [show rulesFor config rules .script = rules from rfl, Job.run_bind_of_ok scripts]
  cases ranMarkup with
  | error escape => exact ⟨afterMarkup, quiet, Job.run_bind_of_error markupRan⟩
  | ok markup =>
      rw [Job.run_bind_of_ok markupRan]
      cases ranData with
      | error escape => exact ⟨afterData, quietData.trans quiet, Job.run_bind_of_error dataRan⟩
      | ok data => exact ⟨afterData, quietData.trans quiet, Job.run_bind_of_ok dataRan⟩

/-! ## What becomes of the reports -/

/-- The first markup path, or else the first data path, that the batch analyzer reports on. -/
def firstConflict (script : Report) (files : ProjectFiles) : Option String :=
  (files.markup.keys.find? fun path => decide (path ∈ script.keys)).or
    (files.data.keys.find? fun path => decide (path ∈ script.keys))

theorem firstClash_eq_firstConflict (script : Report) (filed : files.IsFiled)
    (markupKeys : markup.keys = files.markup.keys) (dataKeys : data.keys = files.data.keys) :
    Report.firstClash [] [script, markup, data] = firstConflict script files := by
  have own : (files.data.keys.find? fun path => decide (path ∈ script.keys ++ files.markup.keys)) =
      files.data.keys.find? fun path => decide (path ∈ script.keys) := by
    refine List.find?_congr fun path member => ?_
    have apart : path ∉ files.markup.keys :=
      filed.disjoint .data .markup (by decide) path member
    simp [apart]
  have first : (script.keys.find? fun path => decide (path ∈ ([] : List String))) = none := by
    simp
  simp only [Report.firstClash, markupKeys, dataKeys, List.nil_append, own, first, Option.none_or,
    Option.or_none, firstConflict]

theorem firstConflict_isSome_iff :
    (firstConflict script files).isSome = true ↔
      ∃ path ∈ script.keys, path ∈ files.markup.keys ∨ path ∈ files.data.keys := by
  simp only [firstConflict, Option.isSome_or, Bool.or_eq_true, List.find?_isSome,
    decide_eq_true_iff]
  constructor
  · rintro (⟨path, found, reported⟩ | ⟨path, found, reported⟩)
    · exact ⟨path, reported, .inl found⟩
    · exact ⟨path, reported, .inr found⟩
  · rintro ⟨path, reported, found | found⟩
    · exact .inl ⟨path, found, reported⟩
    · exact .inr ⟨path, found, reported⟩

/-- A report brings the answer of a batch analyzer together with the files of a project, and
messages warn of what does not fit. -/
structure Aggregates (files : ProjectFiles) (script report : Report) (logs : List LogRecord) :
    Prop where
  keys : report.keys = script.keys ++ files.markup.keys ++ files.data.keys
  nodup : report.keys.Nodup
  parsed : ∀ entry ∈ report.entries, entry.2.parsingError = none
  /-- The report on a file that was found has the language of the file. -/
  language : ∀ family, ∀ found ∈ (files.group family).entries, ∀ entry ∈ report.entries,
    entry.1 = found.1 → entry.2.language = some found.2.language
  /-- The warnings list the scripts that the analyzer did not report on, and the paths that it
  reported on and that were not found. -/
  warned : notices logs =
    missingNotice
        (Text.sorted (files.script.keys.filter fun path => decide (path ∉ script.keys))) ++
      unexpectedNotice (Text.sorted (script.keys.filter fun path => decide (path ∉ files.all.keys)))

theorem keys_all (filed : files.IsFiled) :
    files.all.keys = files.script.keys ++ files.markup.keys ++ files.data.keys := by
  simp [Keyed.keys, filed.entries_all]

theorem mem_all_of_mem_group (filed : files.IsFiled) {entry : String × SourceFile}
    (found : entry ∈ (files.group family).entries) : entry ∈ files.all.entries := by
  rw [filed.entries_all]
  cases family with
  | script => exact List.mem_append_left _ (List.mem_append_left _ found)
  | markup => exact List.mem_append_left _ (List.mem_append_right _ found)
  | data => exact List.mem_append_right _ found

/-- Only scripts can be without a report. -/
theorem missing_eq (filed : files.IsFiled)
    (keys : report.keys = script.keys ++ files.markup.keys ++ files.data.keys) :
    report.missing files.all =
      Text.sorted (files.script.keys.filter fun path => decide (path ∉ script.keys)) := by
  have scripts : (files.script.keys.filter fun path => !report.contains path) =
      files.script.keys.filter fun path => decide (path ∉ script.keys) := by
    refine List.filter_congr fun path member => ?_
    have noMarkup : path ∉ files.markup.keys :=
      filed.disjoint .script .markup (by decide) path member
    have noData : path ∉ files.data.keys :=
      filed.disjoint .script .data (by decide) path member
    simp [Keyed.contains_eq_decide, keys, noMarkup, noData]
  have markups : (files.markup.keys.filter fun path => !report.contains path) = [] := by
    rw [List.filter_eq_nil_iff]
    intro path member
    simp [Keyed.contains_eq_decide, keys, member]
  have datas : (files.data.keys.filter fun path => !report.contains path) = [] := by
    rw [List.filter_eq_nil_iff]
    intro path member
    simp [Keyed.contains_eq_decide, keys, member]
  rw [Report.missing, keys_all filed, List.filter_append, List.filter_append, scripts, markups,
    datas, List.append_nil, List.append_nil]

/-- Only the batch analyzer can report on what was not found. -/
theorem unexpected_eq (filed : files.IsFiled)
    (keys : report.keys = script.keys ++ files.markup.keys ++ files.data.keys) :
    report.unexpected files.all =
      Text.sorted (script.keys.filter fun path => decide (path ∉ files.all.keys)) := by
  have scripts : (script.keys.filter fun path => !files.all.contains path) =
      script.keys.filter fun path => decide (path ∉ files.all.keys) := by
    refine List.filter_congr fun path _ => ?_
    simp [Keyed.contains_eq_decide]
  have markups : (files.markup.keys.filter fun path => !files.all.contains path) = [] := by
    rw [List.filter_eq_nil_iff]
    intro path member
    simp [Keyed.contains_eq_decide, keys_all filed, member]
  have datas : (files.data.keys.filter fun path => !files.all.contains path) = [] := by
    rw [List.filter_eq_nil_iff]
    intro path member
    simp [Keyed.contains_eq_decide, keys_all filed, member]
  rw [Report.unexpected, keys, List.filter_append, List.filter_append, scripts, markups, datas,
    List.append_nil, List.append_nil]

theorem aggregates_of_merged (filed : files.IsFiled)
    (markupKeys : markup.keys = files.markup.keys) (dataKeys : data.keys = files.data.keys)
    (quiet : notices before.logs = [])
    (merged : report.entries = ([script, markup, data].flatMap Keyed.entries).map
      (Report.mergedEntry (some files.all))) :
    Aggregates files script report (before.logs ++ missingNotice (report.missing files.all) ++
      unexpectedNotice (report.unexpected files.all)) := by
  have keys : report.keys = script.keys ++ files.markup.keys ++ files.data.keys := by
    rw [← markupKeys, ← dataKeys]
    simp [Keyed.keys, merged, Function.comp_def, Report.mergedEntry]
  refine ⟨keys, report.nodup_keys, ?_, ?_, ?_⟩
  · intro entry member
    rw [merged] at member
    obtain ⟨source, -, rfl⟩ := List.mem_map.mp member
    exact Report.parsingError_mergedEntry source
  · intro family found here entry member same
    rw [merged] at member
    obtain ⟨source, -, rfl⟩ := List.mem_map.mp member
    have known : files.all.get? source.1 = some found.2 := by
      rw [Keyed.get?_eq_some_iff, show source.1 = found.1 from same]
      exact mem_all_of_mem_group filed here
    exact Report.language_mergedEntry known
  · rw [notices_append, notices_append, quiet, missingNotice, unexpectedNotice, notices_noticeOf,
      notices_noticeOf, List.nil_append, missing_eq filed keys, unexpected_eq filed keys]

/-- An analysis brings the answer of a batch analyzer together with the files of a project. It is
refused exactly if the answer reports on a markup or data file; then the first of these is named,
markup files first. Otherwise it gives the reports of the batch analyzer, then one for each markup
file and each data file. -/
structure EndsAsMerged (files : ProjectFiles) (script : Report)
    (outcome : Except RunError Report × Trace) : Prop where
  refused : (∃ path, outcome.1 = .error (.merge (.conflict path))) ↔
    ∃ path ∈ script.keys, path ∈ files.markup.keys ∨ path ∈ files.data.keys
  named : ∀ path, outcome.1 = .error (.merge (.conflict path)) →
    firstConflict script files = some path
  merged : (¬∃ path ∈ script.keys, path ∈ files.markup.keys ∨ path ∈ files.data.keys) →
    ∃ report, outcome.1 = .ok report ∧ Aggregates files script report outcome.2.logs

theorem EndsAsMerged.ne_execution {outcome : Except RunError Report × Trace} {escape : Escape}
    (ends : EndsAsMerged files script outcome) : outcome.1 ≠ .error (.execution escape) := by
  intro broken
  by_cases clash : ∃ path ∈ script.keys, path ∈ files.markup.keys ∨ path ∈ files.data.keys
  · obtain ⟨path, refused⟩ := ends.refused.mpr clash
    cases refused.symm.trans broken
  · obtain ⟨report, returned, -⟩ := ends.merged clash
    cases returned.symm.trans broken

/-- The merge of the answer of a batch analyzer with a report on every markup file and on every data
file. -/
theorem endsAsMerged (filed : files.IsFiled) (markupKeys : markup.keys = files.markup.keys)
    (dataKeys : data.keys = files.data.keys) (quiet : notices before.logs = []) :
    EndsAsMerged files script
      ((orFail .merge (Report.merge (some files.all) [script, markup, data]) >>= fun report =>
        checkCompleteness report files.all >>= fun _ => pure report).run.run before) := by
  have clashes := firstClash_eq_firstConflict script filed markupKeys dataKeys
  cases conflict : firstConflict script files with
  | some first =>
      have clash : ∃ path ∈ script.keys, path ∈ files.markup.keys ∨ path ∈ files.data.keys :=
        firstConflict_isSome_iff.mp (by rw [conflict]; rfl)
      rw [Report.merge_of_clash (clashes.trans conflict)]
      refine ⟨iff_of_true ⟨first, rfl⟩ clash, ?_, fun apart => (apart clash).elim⟩
      intro path other
      cases other
      exact conflict
  | none =>
      have apart : ¬∃ path ∈ script.keys, path ∈ files.markup.keys ∨ path ∈ files.data.keys := by
        rw [← firstConflict_isSome_iff, conflict]
        exact Bool.false_ne_true
      obtain ⟨report, merged, entries⟩ :=
        Report.merge_of_apart (some files.all) (clashes.trans conflict)
      rw [merged, orFail, pure_bind, Job.run_bind_of_ok checkCompleteness_run]
      refine ⟨iff_of_false nofun apart, nofun, fun _ => ⟨report, rfl, ?_⟩⟩
      exact aggregates_of_merged filed markupKeys dataKeys quiet entries

/-- An analysis whose files are found, whose batch analyzer answers and that has the analyzers it
needs is broken off by the first failure on a markup file, or else on a data file, that does not
tell what it is. It ends with the merged reports, or with the first conflict between them, exactly
if there is no such failure. -/
theorem analyze_aggregates_iff
    (found : (perform (collectFiles fs config spec)).1 = .ok files)
    (answered : Answers analyzers (projectDirectory fs config spec) rules files.script script)
    (markupReady : files.markup.isEmpty = false → analyzers.markup.isSome = true)
    (dataReady : files.data.isEmpty = false → analyzers.data.isSome = true) :
    let outcome := perform (analyze fs config analyzers spec rules)
    (∀ escape, outcome.1 = .error (.execution escape) ↔
        firstEscape? config analyzers rules files = some escape) ∧
      (EndsAsMerged files script outcome ↔ firstEscape? config analyzers rules files = none) := by
  intro outcome
  have filed := (collect_of_ok (collect_of_found found)).1
  obtain ⟨ranMarkup, markups⟩ :=
    exists_reports (rulesFor config rules .markup) (linterFor .markup) markupReady
  obtain ⟨ranData, datas⟩ :=
    exists_reports (rulesFor config rules .data) (linterFor .data) dataReady
  have ends : (∃ escape, outcome.1 = .error (.execution escape) ∧
        firstEscape? config analyzers rules files = some escape) ∨
      (EndsAsMerged files script outcome ∧ firstEscape? config analyzers rules files = none) := by
    obtain ⟨after, quiet, ran⟩ := analyze_run found answered markups datas
    rw [rulesFor_markup] at markups
    change (∃ escape, (perform _).1 = _ ∧ _) ∨ (EndsAsMerged _ _ (perform _) ∧ _)
    rw [ran, firstEscape?, List.findSome?_append]
    cases ranMarkup with
    | error escape =>
        have first : (markupCalls config rules files).findSome? (escape? analyzers) = some escape :=
          (Reports.eq_error_iff .markup markups).mp rfl
        exact .inl ⟨escape, rfl, by rw [first, Option.some_or]⟩
    | ok markup =>
        have none : (markupCalls config rules files).findSome? (escape? analyzers) = none :=
          Reports.findSome?_eq_none .markup markups
        rw [none, Option.none_or]
        cases ranData with
        | error escape =>
            exact .inl ⟨escape, rfl, (Reports.eq_error_iff .data datas).mp rfl⟩
        | ok data =>
            exact .inr ⟨endsAsMerged filed markups.keys_eq datas.keys_eq quiet,
              Reports.findSome?_eq_none .data datas⟩
  obtain ⟨first, broken, breaks⟩ | ⟨merged, told⟩ := ends
  · refine ⟨fun escape => ?_, iff_of_false (fun merged => merged.ne_execution broken) ?_⟩
    · rw [broken, breaks]
      simp
    · rw [breaks]
      nofun
  · refine ⟨fun escape => iff_of_false merged.ne_execution ?_, iff_of_true merged told⟩
    rw [told]
    nofun

/-- A project with one script. -/
def scriptProject : FileSystem :=
  { entries := [(["w"], .directory false), (["w", "sources"], .directory false),
      (["w", "sources", "p"], .directory false), (["w", "sources", "p", "a.js"], .file [] false)]
    current := ["w"]
    homes := [] }

/-- The configuration of the project. -/
def scriptConfiguration : Configuration := .standard (Path.parse "/w")

/-- What is found of the project. -/
def scriptFiles : ProjectFiles :=
  (perform (collectFiles scriptProject scriptConfiguration { name := "p" })).1.toOption.getD ∅

/-- A report on a script that is not there. -/
def strayReport : Report := Keyed.ofList [("/w/sources/p/x.js", .clean)]

/-- A batch analyzer that passes over the script, and file analyzers of which one always fails. -/
def strayAnalyzers : AnalyzerSet where
  script := some { name := "stray", analyze := fun _ => .ok (.built strayReport) }
  markup :=
    some { name := "failing", analyze := fun _ => .error (.raised "OSError" "" .null .null) }
  data := some DataSyntax.analyzer

theorem analyze_aggregates_scriptProject :
    (perform (collectFiles scriptProject scriptConfiguration { name := "p" })).1 = .ok scriptFiles ∧
      Answers strayAnalyzers (projectDirectory scriptProject scriptConfiguration { name := "p" }) []
        scriptFiles.script strayReport ∧
      EndsAsMerged scriptFiles strayReport
        (perform (analyze scriptProject scriptConfiguration strayAnalyzers { name := "p" }
          [])) := by
  have found : (perform (collectFiles scriptProject scriptConfiguration { name := "p" })).1 =
      .ok scriptFiles := Except.eq_ok_getD_of_isOk (by decide +kernel) ∅
  have answered : Answers strayAnalyzers
      (projectDirectory scriptProject scriptConfiguration { name := "p" }) [] scriptFiles.script
      strayReport := .reply (by decide +kernel) rfl rfl rfl
  have told : firstEscape? scriptConfiguration strayAnalyzers [] scriptFiles = none := by
    decide +kernel
  exact ⟨found, answered,
    (analyze_aggregates_iff found answered (fun _ => rfl) (fun _ => rfl)).2.mpr told⟩

/-- A project with one data file. -/
def dataProject : FileSystem :=
  { entries := [(["w"], .directory false), (["w", "sources"], .directory false),
      (["w", "sources", "p"], .directory false), (["w", "sources", "p", "a.yml"], .file [] false)]
    current := ["w"]
    homes := [] }

/-- A data analyzer whose failures have no text. -/
def speechlessAnalyzers : AnalyzerSet where
  data := some Execution.speechless

/-- What is found of the project. -/
def dataFiles : ProjectFiles :=
  (perform (collectFiles dataProject scriptConfiguration { name := "p" })).1.toOption.getD ∅

/-- An analysis is broken off by a failure that has no text, though there is nothing that the batch
analyzer could report on. -/
theorem speechlessAnalyzers_not_endsAsMerged :
    (perform (collectFiles dataProject scriptConfiguration { name := "p" })).1 = .ok dataFiles ∧
      dataFiles.markup.keys = [] ∧ dataFiles.data.keys = ["/w/sources/p/a.yml"] ∧
      Answers speechlessAnalyzers
        (projectDirectory dataProject scriptConfiguration { name := "p" }) [] dataFiles.script ∅ ∧
      ¬EndsAsMerged dataFiles ∅
        (perform (analyze dataProject scriptConfiguration speechlessAnalyzers { name := "p" }
          [])) := by
  have broken : (perform (analyze dataProject scriptConfiguration speechlessAnalyzers
      { name := "p" } [])).1.isOk = false := by
    decide +kernel
  refine ⟨Except.eq_ok_getD_of_isOk (by decide +kernel) ∅, by decide +kernel, by decide +kernel,
    .nothing (by decide +kernel), fun ends => ?_⟩
  obtain ⟨report, returned, -⟩ := ends.merged (by rintro ⟨path, reported, -⟩; cases reported)
  rw [returned] at broken
  cases broken

end Run

end Baseline
