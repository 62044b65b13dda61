import Baseline.CommandLine.Command
import Baseline.Log

/-!
# Requests

The program lists the configured projects or runs the analysis of one of them. The arguments say
which, and how.
-/

namespace Baseline.CommandLine

/-- What the program is to do. -/
inductive Task where
  | list
  | run (project : String)
  deriving DecidableEq, Repr

/-- What the options say. -/
structure Settings where
  verbose : Bool := false
  config : Option String := some "."
  rules : Option String := none
  logFile : Option String := none
  deriving DecidableEq, Repr

/-- A task and the settings for it. -/
structure Request where
  task : Task
  settings : Settings
  deriving DecidableEq, Repr

/-- Why arguments are no request: a command stops on them. -/
structure Refusal where
  command : Command
  stop : Stop
  deriving DecidableEq, Repr

/-- The option that asks for help. -/
def helpOption : OptionSpec := ⟨["-h", "--help"], .help, false⟩

/-- The option that asks for more messages. -/
def verboseOption : OptionSpec := ⟨["-v", "--verbose"], .verbose, false⟩

/-- The option that names the configuration. -/
def configOption : OptionSpec := ⟨["--config"], .config, true⟩

/-- The option that names a rule list. -/
def rulesOption : OptionSpec := ⟨["--rules"], .rules, true⟩

/-- The option that names a file for messages. -/
def logFileOption : OptionSpec := ⟨["--log-file"], .logFile, true⟩

namespace Command

/-- How the program is called. -/
def programUsage : String := "usage: ruling [-h] [-v] \x7brun,list\x7d ...\n"

/-- How a run is called. -/
def runUsage : String :=
  "usage: ruling run [-h] [-v] [--config CONFIG] [--rules RULES]\n" ++
  "                  [--log-file LOG_FILE]\n" ++
  "                  project\n"

/-- How the list is called. -/
def listUsage : String := "usage: ruling list [-h] [-v] [--config CONFIG]\n"

/-- The program itself: it takes a command and the arguments of that command. -/
def program : Command :=
  { name := programName
    usage := programUsage
    help := programUsage ++
      "\n" ++
      "Analyze source projects and record per-rule results for baseline comparison.\n" ++
      "\n" ++
      "positional arguments:\n" ++
      "  \x7brun,list\x7d\n" ++
      "    run          Analyze one configured project.\n" ++
      "    list         List configured projects.\n" ++
      "\n" ++
      "options:\n" ++
      "  -h, --help     show this help message and exit\n" ++
      "  -v, --verbose  Increase log verbosity for troubleshooting.\n"
    options := [helpOption, verboseOption]
    operand := .rest "command" }

/-- The command that runs the analysis of a project. -/
def run : Command :=
  { name := programName ++ " run"
    usage := runUsage
    help := runUsage ++
      "\n" ++
      "positional arguments:\n" ++
      "  project              Name of the project as listed in the configuration.\n" ++
      "\n" ++
      "options:\n" ++
      "  -h, --help           show this help message and exit\n" ++
      "  -v, --verbose        Increase log verbosity for troubleshooting.\n" ++
      "  --config CONFIG      Path to .ruling.yml or the directory holding it\n" ++
      "                       (defaults to current directory).\n" ++
      "  --rules RULES        JSON file listing rule configurations forwarded to\n" ++
      "                       analyzers.\n" ++
      "  --log-file LOG_FILE  Also write detailed logs to this file.\n"
    options := [helpOption, verboseOption, configOption, rulesOption, logFileOption]
    operand := .one "project" }

/-- The command that lists the projects. -/
def list : Command :=
  { name := programName ++ " list"
    usage := listUsage
    help := listUsage ++
      "\n" ++
      "options:\n" ++
      "  -h, --help       show this help message and exit\n" ++
      "  -v, --verbose    Increase log verbosity for troubleshooting.\n" ++
      "  --config CONFIG  Path to .ruling.yml or the directory holding it (defaults\n" ++
      "                   to current directory).\n"
    options := [helpOption, verboseOption, configOption]
    operand := .none }

/-- The commands that the program takes, by the names they are called by. -/
def choices : List (String × Command) := [("run", run), ("list", list)]

end Command

/-- The settings with one more option used. -/
def Settings.apply (settings : Settings) (use : Use) : Settings :=
  match use.option.setting with
  | .help => settings
  | .verbose => { settings with verbose := true }
  | .config => { settings with config := use.value }
  | .rules => { settings with rules := use.value }
  | .logFile => { settings with logFile := use.value }

/-- The task of a command with its operand. -/
def taskOf (operand : Option (List String)) : Task :=
  match operand with
  | some (project :: _) => .run project
  | _ => .list

namespace Request

/-- The arguments that a command reads, or its refusal. -/
def parseWith (command : Command) (arguments : List String) : Except Refusal Parsed :=
  (command.parse arguments).mapError (Refusal.mk command)

/-- The command that the program's operand names, and its arguments. -/
def choose (operand : Option (List String)) : Except Refusal (Command × List String) :=
  let name := ((operand.getD []).head?).getD ""
  match Command.choices.lookup name with
  | some command => .ok (command, (operand.getD []).drop 1)
  | none =>
    .error ⟨.program, .problem (.notChoice "command" name (Command.choices.map Prod.fst))⟩

/-- The request that arguments make. -/
def ofArguments (arguments : List String) : Except Refusal Request := do
  let outer ← parseWith .program arguments
  let (command, arguments) ← choose outer.operand
  let inner ← parseWith command arguments
  match outer.extras ++ inner.extras with
  | [] => return ⟨taskOf inner.operand, (outer.uses ++ inner.uses).foldl Settings.apply {}⟩
  | extras => .error ⟨.program, .problem (.unrecognized extras)⟩

end Request

end Baseline.CommandLine
