import Baseline.Exclusion

/-!
# Projects

A project is named, and may say where its tests are, what to leave out, and which folder it is in.
-/

namespace Baseline

/-- What is known of a project before it is looked at. -/
structure ProjectSpec where
  name : String
  testDir : Option String := none
  exclusions : Option String := none
  folder : Option String := none
  deriving DecidableEq, Repr

namespace ProjectSpec

/-- The test directories of a project, in the order in which it names them. -/
def testDirs (spec : ProjectSpec) : List String :=
  match spec.testDir with
  | none | some "" => []
  | some text => (commaSeparated text).filter (· != "")

/-- The exclusions of a project. -/
def exclusionSet (spec : ProjectSpec) : Exclusions :=
  .forProject spec.exclusions spec.testDir

end ProjectSpec

end Baseline
