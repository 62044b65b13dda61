import Baseline.Glob.Rule

/-!
# Exclusions

A project names its exclusions as globs on paths relative to the project, besides its test
directories. The standard exclusions look at whole absolute paths. The two never mix.
-/

namespace Baseline

open Glob

/-- The globs that exclude a file of every project, by its absolute path. -/
def standardPatterns : List String :=
  ["**/.*", "**/.*/**", "**/*.d.ts", "**/node_modules/**", "**/bower_components/**", "**/dist/**",
    "**/vendor/**", "**/external/**"]

/-- The matcher of the standard exclusions. -/
def standardExclusions : Matcher := .ofPatterns true false standardPatterns

/-- The trimmed pieces of a text between commas. -/
def commaSeparated (s : String) : List String :=
  (Text.splitAt ',' s).map Text.trimmed

/-- The text without the slashes at its end. -/
def withoutFinalSlashes (s : String) : String :=
  String.ofList (s.toList.reverse.dropWhile (· == '/')).reverse

/-- The glob of everything below a directory. -/
def insideGlob (directory : String) : String := directory ++ "/**/*"

/-- The patterns of an exclusion text, then one for each of the test directories. -/
def projectPatterns (exclusions testDir : Option String) : List String :=
  let given := match exclusions with
    | none | some "" => []
    | some text => commaSeparated text
  let inside := match testDir with
    | none | some "" => []
    | some text =>
      ((commaSeparated text).map withoutFinalSlashes).filterMap fun directory =>
        if directory == "" then none else some (insideGlob directory)
  given ++ inside

/-- The matcher of a project's exclusions; its test directories are left to passes of their own. -/
def projectExclusions (exclusions testDir : Option String) : Matcher :=
  .ofPatterns true true (projectPatterns exclusions testDir)

/-- The exclusions of a project beside the standard ones. -/
structure Exclusions where
  project : Matcher
  standard : Matcher := standardExclusions
  deriving DecidableEq, Repr

namespace Exclusions

/-- The exclusions of a project that names these texts. -/
def forProject (exclusions testDir : Option String) : Exclusions :=
  { project := projectExclusions exclusions testDir }

/-- The project's globs see the relative path, the standard ones the absolute path. -/
def excludes (e : Exclusions) (relative absolute : String) : Bool :=
  e.project.excludes relative || e.standard.excludes absolute

end Exclusions

end Baseline
