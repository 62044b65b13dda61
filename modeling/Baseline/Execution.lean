import Baseline.Analyzer.Basic
import Baseline.Progress

/-!
# Execution of file analyzers

A file analyzer is run on each file of a group. A failure on one file is logged, becomes the report
of that file, and touches no other, as long as it tells what it is; a failure that does not breaks
the run off.
-/

namespace Baseline

/-- What a run of analyzers leaves behind besides its result. -/
structure Trace where
  logs : List LogRecord := []
  batchCalls : List BatchInput := []
  fileCalls : List (Family × FileInput) := []

namespace Execution

/-- The channel of execution messages. -/
def channel : String := channelName (some "execution")

/-- The number of files at once that is made of a requested one. -/
def workers (requested : Int) : Int := max 1 requested

/-- The seconds between two progress messages. -/
def period : Int := 10

/-- The title of progress messages unless another one is given. -/
def standardTitle : String := "Analysis"

/-- What a file analyzer is given for a file. -/
def inputFor (rules : List RuleSetting) (linterId : Option String) (path : String)
    (file : SourceFile) : FileInput :=
  ⟨path, file.content, rules, linterId, file.language⟩

/-- The report of one file, or why there is none. -/
def attempt (analyzer : FileAnalyzer) (input : FileInput) : Except Failure FileReport :=
  match analyzer.analyze input with
  | .error failure => .error failure
  | .ok reply => (FileReport.ofReply reply).mapError .refused

/-- The report that is kept of what came of a file, in its language, a failure included; there is
none if the failure does not tell what it is. -/
def kept (input : FileInput) : Except Failure FileReport → Except Escape FileReport
  | .ok report => .ok (report.tagged input.language)
  | .error failure => failure.report.map (·.tagged input.language)

/-- The message about a failure on a file, if there was one that has a text. -/
def complaint? (input : FileInput) : Except Failure FileReport → Option LogRecord
  | .ok _ => none
  | .error failure =>
    match failure.text with
    | .ok text => some ⟨.warning, channel, s!"Failed to analyze {input.path}: {text}"⟩
    | .error _ => none

/-- The report of one file in its language, a failure included, or what breaks the run off. -/
def reportOf (analyzer : FileAnalyzer) (input : FileInput) : Except Escape FileReport :=
  kept input (attempt analyzer input)

/-- The message about a failure of an analyzer on a file, if there was one that has a text. -/
def warning? (analyzer : FileAnalyzer) (input : FileInput) : Option LogRecord :=
  complaint? input (attempt analyzer input)

/-- What a file analyzer is to be given for the files of a group, in their order. -/
def inputsOf (rules : List RuleSetting) (linterId : Option String) (files : FileGroup) :
    List FileInput :=
  files.entries.map fun (path, file) => inputFor rules linterId path file

/-- The inputs that are come to one by one: all of them, or those up to the first that breaks the
run off. -/
def reached (analyzer : FileAnalyzer) : List FileInput → List FileInput
  | [] => []
  | input :: rest =>
    match reportOf analyzer input with
    | .ok _ => input :: reached analyzer rest
    | .error _ => [input]

/-- The path and the report of a file, or what breaks the run off. -/
def entryOf (analyzer : FileAnalyzer) (input : FileInput) : Except Escape (String × FileReport) :=
  (reportOf analyzer input).map fun report => (input.path, report)

/-- The reports of the files of a group under their paths, unless a file breaks the run off. -/
def run (analyzer : FileAnalyzer) (rules : List RuleSetting) (linterId : Option String)
    (files : FileGroup) : Except Escape Report :=
  ((inputsOf rules linterId files).mapM (entryOf analyzer)).map .ofList

/-- The messages of a run: what is to be done, the failures, and what has been done unless a file
breaks the run off. No file takes long enough for a message in between. -/
def logs (analyzer : FileAnalyzer) (title : String) (inputs : List FileInput) : List LogRecord :=
  let progress := Progress.ofReading title inputs.length period 0
  let finished := inputs.foldl (fun progress input => (progress.advance 0 input.path).1) progress
  ⟨.info, channel, progress.startMessage⟩ ::
    (reached analyzer inputs).filterMap (warning? analyzer) ++
    if inputs.all fun input => (reportOf analyzer input).isOk then
      [⟨.info, channel, finished.stopMessage⟩]
    else []

/-- The calls that a run makes, in the order of the files. -/
def calls (analyzer : FileAnalyzer) (rules : List RuleSetting) (linterId : Option String)
    (files : FileGroup) : List FileInput :=
  reached analyzer (inputsOf rules linterId files)

/-- The messages of a run over a group; none when there is nothing to do. -/
def groupLogs (analyzer : FileAnalyzer) (rules : List RuleSetting) (linterId : Option String)
    (title : String) (files : FileGroup) : List LogRecord :=
  if files.isEmpty then [] else logs analyzer title (inputsOf rules linterId files)

end Execution

end Baseline
