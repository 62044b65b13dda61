import Baseline.Analyzer.Registry
import Baseline.CommandLine.Request
import Baseline.Configuration
import Baseline.RuleList
import Baseline.Run

/-!
# The program

What the program does with its arguments: it changes a file system, prints, and ends with a status.
Messages about a run go to the error output and, if a file is named for them, into that file, where
each follows a time stamp.
-/

namespace Baseline.CommandLine

/-- What is left when the program ends. -/
structure Outcome where
  status : Nat
  output : String
  errorOutput : String
  fs : FileSystem

/-- An error that breaks the program off. -/
inductive Crash where
  | logFile (error : FileError)
  /-- The option that names the configuration has no value. -/
  | noConfiguration
  | configuration (error : LoadError)
  | rules (error : RuleList.Error)
  | run (error : RunError)

/-- The wording of such an error. -/
def Crash.message : Crash → String
  | .logFile error => error.message
  | .noConfiguration => "expected str, bytes or os.PathLike object, not list"
  | .configuration error => error.message
  | .rules error => error.message
  | .run error => error.message

/-- The end of the program when its arguments are no request. -/
def Refusal.outcome (fs : FileSystem) (refusal : Refusal) : Outcome :=
  match refusal.stop with
  | .help => ⟨0, refusal.command.help, "", fs⟩
  | .problem problem =>
    ⟨2, "", refusal.command.usage ++ s!"{refusal.command.name}: error: {problem.message}\n", fs⟩

/-- The level below which nothing is said. -/
def Settings.level (settings : Settings) : Level :=
  if settings.verbose then .debug else .info

/-- A text that a setting gives, unless it is empty. -/
def given? (setting : Option String) : Option String :=
  setting.filter (· != "")

/-- A message as it is printed. -/
def printedLine (record : LogRecord) : String :=
  s!"[{programName}] {record.level.name} {record.message}\n"

/-- The names of a path up to the first null character. -/
def upToNull : List String → List String
  | [] => []
  | name :: rest =>
    match name.toList.takeWhile (· != '\x00') with
    | [] => []
    | kept => if kept == name.toList then name :: upToNull rest else [String.ofList kept]

/-- The path of the file for messages: it ends where a null character stands. -/
def logPath (fs : FileSystem) (name : String) : Path :=
  let path := FileSystem.collapse (fs.absolute (.parse name))
  ⟨path.root, upToNull path.parts⟩

/-- The file system with a journal of what a run says, if a file is named for it. -/
def openJournal (fs : FileSystem) (settings : Settings) (stamp : String) :
    Except FileError (FileSystem × Option Journal) :=
  match given? settings.logFile with
  | none => .ok (fs, none)
  | some name =>
    (Journal.start fs (logPath fs name) settings.level stamp).map fun (fs, journal) =>
      (fs, some journal)

/-- The report on a run that is printed. -/
def runReport (spec : ProjectSpec) (result : Run.Result) : String :=
  let counts := result.report.summary.map fun (rule, count) => s!"  {rule}: {count}\n"
  let directory := match result.written with
    | [] => ""
    | path :: _ => s!"Results written to {path.parent.text}\n"
  s!"Analyzed {result.report.size} file(s) of {spec.name}\n" ++ String.join counts ++ directory

/-- The message about a run that failed. -/
def failureReport (message : String) : String :=
  s!"{programName} run failed: {message}\nRun with --verbose for more details.\n"

/-- The end of a run that fails before it starts. -/
def failed (fs : FileSystem) (message : String) : Outcome :=
  ⟨1, "", failureReport message, fs⟩

/-- Runs the analysis of a project. -/
def runProject (fs : FileSystem) (journal : Option Journal) (level : Level)
    (config : Configuration) (spec : ProjectSpec) (rules : List RuleSetting) :
    Except Crash Outcome :=
  let outcome := Run.run fs journal config Registry.builtIn spec rules
  let logs := outcome.trace.logs.filter (·.isAtLeast level)
  let printed := String.join (logs.map printedLine)
  match outcome.result with
  | .ok result => .ok ⟨0, runReport spec result, printed, outcome.fs⟩
  | .error e =>
    if e.isReported then .ok ⟨1, "", printed ++ failureReport e.message, outcome.fs⟩
    else .error (.run e)

/-- The rules that the settings name. -/
def rulesOf (fs : FileSystem) (settings : Settings) : Except RuleList.Error (List RuleSetting) :=
  match given? settings.rules with
  | none => .ok []
  | some name => RuleList.load fs (.parse name)

/-- Runs the analysis of the project of a name. -/
def runNamed (fs : FileSystem) (journal : Option Journal) (settings : Settings)
    (config : Configuration) (name : String) : Except Crash Outcome :=
  match config.project name with
  | .error e => .ok (failed fs e.message)
  | .ok spec =>
    match rulesOf fs settings with
    | .ok rules => runProject fs journal settings.level config spec rules
    | .error e => if e.isReported then .ok (failed fs e.message) else .error (.rules e)

/-- Does the task of a request under a configuration. -/
def doTask (fs : FileSystem) (journal : Option Journal) (request : Request)
    (config : Configuration) : Except Crash Outcome :=
  match request.task with
  | .list => .ok ⟨0, String.join (config.projectNames.map (· ++ "\n")), "", fs⟩
  | .run name => runNamed fs journal request.settings config name

/-- Does what a request asks for; the journal is opened before anything else. -/
def fulfill (fs : FileSystem) (stamp : String) (request : Request) : Except Crash Outcome :=
  match openJournal fs request.settings stamp, request.settings.config with
  | .error e, _ => .error (.logFile e)
  | .ok _, none => .error .noConfiguration
  | .ok (fs, journal), some path =>
    match Configuration.load fs (.parse path) with
    | .ok config => doTask fs journal request config
    | .error (.refused e) => .ok ⟨1, "", s!"{programName}: {e.message}\n", fs⟩
    | .error e => .error (.configuration e)

/-- Does what arguments ask for; messages in a journal follow the time stamp. -/
def execute (fs : FileSystem) (stamp : String) (arguments : List String) : Except Crash Outcome :=
  match Request.ofArguments arguments with
  | .error refusal => .ok (refusal.outcome fs)
  | .ok request => fulfill fs stamp request

end Baseline.CommandLine
