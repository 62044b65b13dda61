import Baseline.FileSystem.Access
import Baseline.Project
import Baseline.Source.Acceptance
import Baseline.Yaml.Construction

/-!
# Configuration

A YAML file beside the sources names the projects, where their sources lie and where results go. It
may be missing or empty; its fields are read leniently, and few values are refused.
-/

namespace Baseline

/-- The settings of a run. -/
structure Configuration where
  root : Path
  sources : Path
  results : Path
  maxWorkers : Int
  maxFileSize : Int
  markupExcludedRules : List String
  projects : List ProjectSpec

/-- Why a configuration is refused. -/
inductive ConfigError where
  | unreadable (name : String) (error : FileSystem.TextError)
  | unparsable (name : String) (error : Yaml.Error) (text : String)
  | notMapping
  | notPositive (field : String)
  /-- An entry that describes no project, as it is shown. -/
  | notProject (entry : String)
  | namelessProject
  | repeatedNames (names : List String)
  | unknownProject (name : String) (known : List String)

namespace Configuration

/-- The name of the configuration file of a directory. -/
def fileName : String := ".ruling.yml"

/-- The number of files at once unless one is given. -/
def standardWorkers : Int := 4

/-- The rules that markup files are not checked for unless others are given. -/
def standardExcludedRules : List String := ["no-var"]

end Configuration

/-- The wording of a refusal. -/
def ConfigError.message : ConfigError → String
  | .unreadable name error => s!"Failed to read {name}: {error.message}"
  | .unparsable name error text => s!"Failed to parse {name}: " ++ error.message text
  | .notMapping => Configuration.fileName ++ " must contain a mapping at the root"
  | .notPositive field => field ++ " must be a positive integer"
  | .notProject entry => "Project entries must be mappings, got " ++ entry
  | .namelessProject => "Every project entry needs a name"
  | .repeatedNames names => "Duplicate project names: " ++ ", ".intercalate names
  | .unknownProject name known =>
    let names := ", ".intercalate known
    s!"Unknown project '{name}' (configured: " ++ (if names == "" then "none" else names) ++ ")"

/-- Why no configuration can be loaded: it is refused, a path cannot be resolved, a value in it
cannot be made, or an integer in it is too long to be shown. -/
inductive LoadError where
  | refused (error : ConfigError)
  | path (error : FileSystem.PathError)
  | value (error : Yaml.Error)
  | longInteger

/-- The wording of an error. -/
def LoadError.message : LoadError → String
  | .refused error => error.message
  | .path error => error.message
  | .value error => error.message ""
  | .longInteger => Number.unshowableMessage

namespace Configuration

open Yaml (Value Graph)

/-- The configuration of a directory that says nothing. -/
def standard (root : Path) : Configuration :=
  { root
    sources := root.child "sources"
    results := root.child "actual"
    maxWorkers := standardWorkers
    maxFileSize := Source.standardSizeLimit
    markupExcludedRules := standardExcludedRules
    projects := [] }

/-- The names of the projects in order. -/
def projectNames (config : Configuration) : List String := config.projects.map ProjectSpec.name

/-- The first project with a name. -/
def project (config : Configuration) (name : String) : Except ConfigError ProjectSpec :=
  match config.projects.find? (·.name == name) with
  | some spec => .ok spec
  | none => .error (.unknownProject name config.projectNames)

/-- The directory of a project: its folder, or else its name, below the sources. -/
def projectPath (config : Configuration) (spec : ProjectSpec) : Path :=
  let folder := match spec.folder with
    | none | some "" => spec.name
    | some folder => folder
  config.sources.below folder

/-- The text of an integer, unless it is too long. -/
def integerText (n : Int) : Except LoadError String :=
  match Number.showInteger? n with
  | some text => .ok text
  | none => .error .longInteger

/-- The text of a value that is a text or a number. -/
def textOf? : Value → Except LoadError (Option String)
  | .text s => .ok (some s)
  | .int n => (integerText n).map some
  | .float x => .ok (some x.text)
  | _ => .ok none

/-- The integer of a value that is one or spells one. -/
def integerOf? : Value → Option Int
  | .int n => some n
  | .text s => (Number.readInteger 10 s).toOption
  | _ => none

/-- The items of a value as a list: null is empty, and what is no list is its only item. -/
def listOf (graph : Graph) (value : Value) : List Value :=
  match value, graph.list? value with
  | .null, _ => []
  | _, some items => items
  | value, none => [value]

/-- The texts of the items that are texts, numbers or truth values. -/
def textsOfItems : List Value → Except LoadError (List String)
  | [] => .ok []
  | .bool b :: rest => (textsOfItems rest).map ((if b then "True" else "False") :: ·)
  | item :: rest => do
    let text ← textOf? item
    let texts ← textsOfItems rest
    return text.toList ++ texts

/-- A value as a list of texts. -/
def textsOf (graph : Graph) (value : Value) : Except LoadError (List String) :=
  match value, graph.list? value with
  | .text s, _ => .ok [s]
  | _, some items => textsOfItems items
  | _, none => .ok []

/-- A failure to resolve a path as one to load. -/
def ofPath {α : Type} : Except FileSystem.PathError α → Except LoadError α :=
  Except.mapError .path

/-- The path that a value names: below the root unless it is absolute. -/
def pathOf? (fs : FileSystem) (root : Path) (value : Value) : Except LoadError (Option Path) := do
  match ← textOf? value with
  | none | some "" => return none
  | some text =>
    let path ← ofPath (fs.expandHome (Path.parse text))
    if path.isAbsolute then return some path
    else return some (← ofPath (fs.resolve (root.join path)))

/-- The value of the first of the keys that entries have, null when they have none. -/
def firstField (entries : List (Value × Value)) (keys : List String) : Value :=
  (keys.findSome? (Graph.field? entries)).getD .null

/-- An integer that must be positive, if the field has one. -/
def positive? (entries : List (Value × Value)) (field : String) :
    Except LoadError (Option Int) :=
  match integerOf? (firstField entries [field]) with
  | none => .ok none
  | some n => if n < 1 then .error (.refused (.notPositive field)) else .ok (some n)

/-- The project that an entry describes. -/
def projectOf (graph : Graph) (entry : Value) : Except LoadError ProjectSpec := do
  match entry, graph.map? entry with
  | .text name, _ => return { name }
  | _, none =>
    match graph.display? entry with
    | some shown => .error (.refused (.notProject shown))
    | none => .error .longInteger
  | _, some entries =>
    match ← textOf? (firstField entries ["name"]) with
    | none | some "" => .error (.refused .namelessProject)
    | some name =>
      let testDir ← textOf? (firstField entries ["testDir", "test_dir"])
      let exclusions ← textOf? (firstField entries ["exclusions"])
      let folder ← textOf? (firstField entries ["folder"])
      return { name, testDir, exclusions, folder }

/-- The names that stand more than once, in order. -/
def repeated (names : List String) : List String :=
  Text.sortedDistinct (names.filter fun name => 1 < names.count name)

/-- The configuration that the entries of a file describe. -/
def ofEntries (fs : FileSystem) (root : Path) (graph : Graph) (entries : List (Value × Value)) :
    Except LoadError Configuration := do
  let base := standard root
  let sources ← pathOf? fs root (firstField entries ["sources_dir"])
  let results ← pathOf? fs root (firstField entries ["actual_dir"])
  let maxWorkers ← positive? entries "max_workers"
  let maxFileSize ← positive? entries "max_file_size_kb"
  let excluded ← match firstField entries ["markup_excluded_rules"] with
    | .null => pure standardExcludedRules
    | value => textsOf graph value
  let projects ← (listOf graph (firstField entries ["projects"])).mapM (projectOf graph)
  match repeated (projects.map ProjectSpec.name) with
  | [] =>
    return {
      root
      sources := sources.getD base.sources
      results := results.getD base.results
      maxWorkers := maxWorkers.getD standardWorkers
      maxFileSize := maxFileSize.getD Source.standardSizeLimit
      markupExcludedRules := excluded
      projects }
  | names => .error (.refused (.repeatedNames names))

/-- The configuration that a value describes; one that counts as nothing describes the standard
one. -/
def ofGraph (fs : FileSystem) (root : Path) (graph : Graph) : Except LoadError Configuration :=
  if !graph.isTruthy graph.root then ofEntries fs root graph []
  else
    match graph.map? graph.root with
    | some entries => ofEntries fs root graph entries
    | none => .error (.refused .notMapping)

/-- The value of a text, where `name` is the name of its file. -/
def parse (name text : String) : Except LoadError Graph :=
  if Text.trimmed text == "" then .ok ⟨[], .null⟩
  else
    match Graph.ofText text with
    | .ok graph => .ok graph
    | .error e =>
      if e.isDiagnosis then .error (.refused (.unparsable name e text)) else .error (.value e)

/-- The value of a configuration file. -/
def readFile (fs : FileSystem) (path : Path) : Except LoadError Graph :=
  match fs.readText path with
  | .error e => .error (.refused (.unreadable path.name e))
  | .ok text => parse path.name text

/-- The configuration file that a path names: the file, or the one in the directory. -/
def locate (fs : FileSystem) (path : Path) : Except LoadError Path := do
  let path ← ofPath (fs.expandHome path)
  match fs.isDirectory path with
  | .error e => .error (.path (.file e))
  | .ok true => ofPath (fs.resolve (path.child fileName))
  | .ok false => ofPath (fs.resolve path)

/-- The configuration that a path names; if there is none, the standard one. -/
def load (fs : FileSystem) (path : Path) : Except LoadError Configuration := do
  let file ← locate fs path
  let root ← ofPath (fs.resolve file.parent)
  match fs.pathExists file with
  | .error e => .error (.path (.file e))
  | .ok false => return standard root
  | .ok true =>
    let graph ← readFile fs file
    ofGraph fs root graph

end Configuration

end Baseline
