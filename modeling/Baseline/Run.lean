import Baseline.Configuration
import Baseline.Discovery
import Baseline.Execution
import Baseline.Results

/-!
# Runs

A run finds the files of a project, hands each family to its analyzer, merges what they report, and
writes the results. It keeps nothing from earlier runs. A journal, if there is one, keeps what the
run says, unless the results take the place of its file.
-/

namespace Baseline

/-- The analyzers of the families, where there are any. -/
structure AnalyzerSet where
  script : Option BatchAnalyzer := none
  markup : Option FileAnalyzer := none
  data : Option FileAnalyzer := none

/-- Why a run has no result. -/
inductive RunError where
  | discovery (error : DiscoveryError)
  | noAnalyzer (family : Family)
  | analyzer (failure : Failure)
  /-- A failure of a file analyzer does not tell what it is. -/
  | execution (escape : Escape)
  | merge (error : MergeError)
  | file (error : FileError)

/-- Whether an error is reported as one of the run; others break it off. -/
def RunError.isReported : RunError → Bool
  | .discovery error => error.isReported
  | .noAnalyzer _ => true
  | .analyzer _ => false
  | .execution _ => false
  | .merge error => error.isReported
  | .file _ => false

/-- The name under which plug-ins offer analyzers. -/
def pluginGroup : String := "ruling.analyzers"

/-- The wording of an error. -/
def RunError.message : RunError → String
  | .discovery error => error.message
  | .noAnalyzer family =>
    s!"No analyzer registered for the {family.name} family; install a plug-in exposing the " ++
      s!"'{pluginGroup}' entry point '{family.name}'"
  | .analyzer failure => failure.shown
  | .execution escape => escape.message
  | .merge error => error.message
  | .file error => error.message

namespace AnalyzerSet

/-- The name of the analyzer of a family. -/
def nameOf? (analyzers : AnalyzerSet) : Family → Option String
  | .script => analyzers.script.map BatchAnalyzer.name
  | .markup => analyzers.markup.map FileAnalyzer.name
  | .data => analyzers.data.map FileAnalyzer.name

end AnalyzerSet

/-- A part of a run: it leaves a trace, and has a result unless it fails. -/
abbrev Job := ExceptT RunError (StateM Trace)

namespace Run

/-- The channel of messages about runs. -/
def channel : String := channelName (some "orchestrator")

/-- The linter that looks at scripts within markup. -/
def markupLinter : String := "html"

/-- Says something. -/
def log (records : List LogRecord) : Job Unit :=
  modify fun trace => { trace with logs := trace.logs ++ records }

/-- Says something about the run. -/
def say (level : Level) (message : String) : Job Unit :=
  log [⟨level, channel, message⟩]

/-- Fails unless there is a result. -/
def orFail {ε α : Type} (wrap : ε → RunError) : Except ε α → Job α
  | .ok a => pure a
  | .error e => throw (wrap e)

/-- The title of the progress messages of a family. -/
def titleOf (family : Family) : String := s!"Progress of {family.name} analysis"

/-- The rules that a family is checked for. -/
def rulesFor (config : Configuration) (rules : List RuleSetting) : Family → List RuleSetting
  | .markup => withoutRules rules config.markupExcludedRules
  | _ => rules

/-- The linter that a family is told. -/
def linterFor : Family → Option String
  | .markup => some markupLinter
  | _ => none

/-- What the files of a project are found by. -/
def passFor (journal : Option Journal) (config : Configuration) (spec : ProjectSpec) :
    Discovery.Pass :=
  ⟨spec.exclusionSet, .main, Source.accepts config.maxFileSize, journal⟩

/-- Finds the files of a project that lies in a directory. -/
def collect (fs : FileSystem) (journal : Option Journal) (config : Configuration)
    (spec : ProjectSpec) (project : Path) : Job ProjectFiles := do
  let fs := Journal.after journal fs (← get).logs
  let outcome := Discovery.collect fs (passFor journal config spec) spec project
  log outcome.logs
  match outcome.failure with
  | some e => throw (.discovery e)
  | none =>
    let files := outcome.files
    say .debug (s!"Collected {files.script.size} script, {files.markup.size} markup and " ++
      s!"{files.data.size} data file(s) for {spec.name}")
    return files

/-- Has the scripts of a project analyzed, if it has any. -/
def analyzeScripts (analyzers : AnalyzerSet) (project : Path) (rules : List RuleSetting)
    (files : FileGroup) : Job Report := do
  if files.isEmpty then return ∅
  else
    match analyzers.script with
    | none => throw (.noAnalyzer .script)
    | some analyzer =>
      say .debug s!"Submitting {files.size} script file(s) to {analyzer.name}"
      let input : BatchInput := ⟨rules, unixPath project.text, files⟩
      modify fun trace => { trace with batchCalls := trace.batchCalls ++ [input] }
      let reply ← orFail .analyzer (analyzer.analyze input)
      orFail (fun e => .analyzer (.refused e)) (Report.ofReply reply)

/-- Has the files of a family analyzed one by one, if there are any. -/
def analyzeFiles (family : Family) (analyzer : Option FileAnalyzer) (rules : List RuleSetting)
    (files : FileGroup) : Job Report := do
  if files.isEmpty then return ∅
  else
    match analyzer with
    | none => throw (.noAnalyzer family)
    | some analyzer =>
      let linter := linterFor family
      log (Execution.groupLogs analyzer rules linter (titleOf family) files)
      modify fun trace =>
        { trace with
          fileCalls := trace.fileCalls ++
            (Execution.calls analyzer rules linter files).map fun input => (family, input) }
      orFail .execution (Execution.run analyzer rules linter files)

/-- Warns of files without a report and of reports without a file. -/
def checkCompleteness (report : Report) (files : FileGroup) : Job Unit := do
  let warn (paths : List String) (what : String) : Job Unit :=
    if paths.isEmpty then pure ()
    else say .warning (what ++ ", ".intercalate paths)
  let missing := report.missing files
  let unexpected := report.unexpected files
  warn missing s!"No result reported for {missing.length} file(s): "
  warn unexpected s!"Results reported for {unexpected.length} undiscovered file(s): "

/-- Finds and analyzes the files of a project that lies in a directory. -/
def analyzeAt (fs : FileSystem) (journal : Option Journal) (config : Configuration)
    (analyzers : AnalyzerSet) (spec : ProjectSpec) (rules : List RuleSetting) (project : Path) :
    Job Report := do
  let files ← collect fs journal config spec project
  let script ← analyzeScripts analyzers project (rulesFor config rules .script) files.script
  let markup ← analyzeFiles .markup analyzers.markup (rulesFor config rules .markup) files.markup
  let data ← analyzeFiles .data analyzers.data (rulesFor config rules .data) files.data
  let all := files.all
  let report ← orFail .merge (Report.merge (some all) [script, markup, data])
  checkCompleteness report all
  return report

/-- The directory of a project, from the root. -/
def projectDirectory (fs : FileSystem) (config : Configuration) (spec : ProjectSpec) : Path :=
  fs.absolute (config.projectPath spec)

/-- Finds the files of a project. -/
def collectFiles (fs : FileSystem) (config : Configuration) (spec : ProjectSpec) :
    Job ProjectFiles :=
  collect fs none config spec (projectDirectory fs config spec)

/-- Finds and analyzes the files of a project. -/
def analyze (fs : FileSystem) (config : Configuration) (analyzers : AnalyzerSet)
    (spec : ProjectSpec) (rules : List RuleSetting) : Job Report :=
  analyzeAt fs none config analyzers spec rules (projectDirectory fs config spec)

/-- What a part of a run gives from an empty trace. -/
def perform {α : Type} (job : Job α) : Except RunError α × Trace :=
  job.run.run {}

/-- What a run that does not fail gives: the directory of the project, the report, and the paths of
the results. -/
structure Result where
  directory : Path
  report : Report
  written : List Path

/-- What a run leaves behind: the file system, its trace, and its result or failure. -/
structure Outcome where
  fs : FileSystem
  trace : Trace
  result : Except RunError Result

/-- The message about a run that is done. -/
def summary (spec : ProjectSpec) (report : Report) : LogRecord :=
  ⟨.info, channel, s!"Analyzed {report.size} file(s) for {spec.name} " ++
    s!"({report.failures.length} parsing failure(s))"⟩

/-- A journal as long as its file is not cleared away to make room for the results of a project. -/
def journalAfterClearing (fs : FileSystem) (journal : Option Journal) (target : Path) :
    Option Journal :=
  journal.filter fun journal => journal.isKept (Results.clear fs target).1

/-- Writes the results of a project after its analysis, which left a trace. -/
def finish (fs : FileSystem) (journal : Option Journal) (config : Configuration)
    (spec : ProjectSpec) (directory : Path) (report : Report) (trace : Trace) : Outcome :=
  let target := Results.projectDirectory config.results spec.name
  let journal := journalAfterClearing fs journal target
  let written := Results.write fs config.results spec.name directory report
  match written.failure with
  | some e => ⟨written.fs, trace, .error (.file e)⟩
  | none =>
    let said := [Results.message config.results spec.name written.paths, summary spec report]
    ⟨Journal.after journal written.fs said, { trace with logs := trace.logs ++ said },
      .ok ⟨directory, report, written.paths⟩⟩

/-- Finds and analyzes the files of a project and writes its results. -/
def run (fs : FileSystem) (journal : Option Journal) (config : Configuration)
    (analyzers : AnalyzerSet) (spec : ProjectSpec) (rules : List RuleSetting) : Outcome :=
  let directory := projectDirectory fs config spec
  let job : Job Report := do
    say .info s!"Starting analysis of {spec.name}"
    analyzeAt fs journal config analyzers spec rules directory
  let (result, trace) := perform job
  let fs := Journal.after journal fs trace.logs
  match result with
  | .error e => ⟨fs, trace, .error e⟩
  | .ok report => finish fs journal config spec directory report trace

end Run

end Baseline
