import Baseline.CommandLine.Program

/-!
# What a request looks at

The files that settings name decide which directories a run looks through: those of the project, and
the one for its results.
-/

namespace Baseline.CommandLine

/-- The paths that the configuration may be at. -/
def configurationPaths (fs : FileSystem) (settings : Settings) : List Path :=
  match settings.config.map fun path => fs.expandHome (.parse path) with
  | some (.ok path) => [path, path.child Configuration.fileName]
  | _ => []

namespace Request

/-- The paths that a request names. -/
def paths (fs : FileSystem) (request : Request) : List Path :=
  configurationPaths fs request.settings ++
    (given? request.settings.rules).toList.map Path.parse ++
    (given? request.settings.logFile).toList.map (logPath fs)

/-- The directories of a project that a run looks through, and the one for its results. -/
def projectDirectories (fs : FileSystem) (config : Configuration) (spec : ProjectSpec) :
    List Path :=
  let project := Run.projectDirectory fs config spec
  Results.projectDirectory config.results spec.name :: project ::
    spec.testDirs.map project.below

/-- The directories that a request looks through, as far as its configuration can be loaded. -/
def directories (fs : FileSystem) (request : Request) : List Path :=
  match request.task, request.settings.config.map fun path => Configuration.load fs (.parse path) with
  | .run name, some (.ok config) =>
    match config.project name with
    | .ok spec => projectDirectories fs config spec
    | .error _ => []
  | _, _ => []

end Request

end Baseline.CommandLine
