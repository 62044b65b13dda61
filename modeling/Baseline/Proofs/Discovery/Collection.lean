import Baseline.Proofs.Discovery.Pass
import Baseline.Proofs.Text.Pieces

/-!
# What the passes over a project find together

The files of a project are those that the pass over its directory finds and those that the passes
over its test directories find. Every pass tests the same globs, but on paths below its own root. So
the globs of a project need not hold on paths below the project, and a file in a test directory may
be found by no pass.
-/

namespace Baseline

open Glob FileSystem

/-! ## Globs of a project -/

theorem Glob.Matcher.excludes_append (ignoresCase matchesBase : Bool) (first second : List String)
    (path : String) :
    (ofPatterns ignoresCase matchesBase (first ++ second)).excludes path =
      ((ofPatterns ignoresCase matchesBase first).excludes path ||
        (ofPatterns ignoresCase matchesBase second).excludes path) := by
  simp [ofPatterns, excludes]

/-- The globs that a project gives, its test directories left aside. -/
def ProjectSpec.givenExclusions (spec : ProjectSpec) : Matcher :=
  projectExclusions spec.exclusions none

/-- The globs of the test directories of a project. -/
def ProjectSpec.testExclusions (spec : ProjectSpec) : Matcher :=
  projectExclusions none spec.testDir

theorem projectPatterns_eq_append (exclusions testDir : Option String) :
    projectPatterns exclusions testDir =
      projectPatterns exclusions none ++ projectPatterns none testDir := by
  simp [projectPatterns]

/-- A pass leaves out what the given globs, the globs of test directories or the standard globs
match. -/
theorem ProjectSpec.excludes_exclusionSet (spec : ProjectSpec) (relative absolute : String) :
    spec.exclusionSet.excludes relative absolute =
      (spec.givenExclusions.excludes relative || spec.testExclusions.excludes relative ||
        standardExclusions.excludes absolute) := by
  have both : (projectExclusions spec.exclusions spec.testDir).excludes relative =
      (spec.givenExclusions.excludes relative || spec.testExclusions.excludes relative) := by
    rw [projectExclusions, projectPatterns_eq_append, Glob.Matcher.excludes_append]
    rfl
  rw [← both]
  rfl

namespace Discovery

variable {fs : FileSystem} {pass : Pass} {spec : ProjectSpec} {project root path : Path}
  {outcome : Outcome} {directories : List String} {accepts : Acceptance}
  {key relative : String}

/-! ## Paths below a root -/

/-- A key is spelled as a path below a root. -/
def Spells (root : Path) (relative key : String) : Prop :=
  key = withoutFinalSlashes (unixPath root.text) ++ "/" ++ relative

theorem relativePath_of_spells (spelled : Spells root relative key) :
    relativePath (rootLength root) key = relative := by
  rw [spelled, relativePath, rootLength]
  simp [← String.length_toList, List.drop_append]

theorem unixPath_append (first second : String) :
    unixPath (first ++ second) = unixPath first ++ unixPath second := by
  simp [unixPath, Text.replaceChar]

theorem exists_eq_append_slashes (s : String) :
    ∃ count, s.toList = (withoutFinalSlashes s).toList ++ List.replicate count '/' ∧
      (s.toList.getLast? = some '/' → count ≠ 0) := by
  have all := List.all_takeWhile (p := (· == '/')) (l := s.toList.reverse)
  have whole := List.takeWhile_append_dropWhile (p := (· == '/')) (l := s.toList.reverse)
  have same : s.toList.reverse.takeWhile (· == '/') =
      List.replicate (s.toList.reverse.takeWhile (· == '/')).length '/' := by
    rw [List.eq_replicate_iff]
    refine ⟨rfl, ?_⟩
    intro c member
    exact beq_iff_eq.mp (List.all_eq_true.mp all c member)
  refine ⟨(s.toList.reverse.takeWhile (· == '/')).length, ?_, ?_⟩
  · rw [← List.reverse_replicate, ← same, withoutFinalSlashes, String.toList_ofList,
      ← List.reverse_append, whole, List.reverse_reverse]
  · intro ends
    rw [← List.head?_reverse, List.head?_eq_some_iff] at ends
    obtain ⟨rest, reversed⟩ := ends
    simp [reversed]

/-- Where a text goes on with a slash, so does the text without its final slashes. -/
theorem exists_append_eq {s more : String}
    (goesOn : s.toList.getLast? = some '/' ∨ ∃ rest, more = "/" ++ rest) :
    ∃ rest, s ++ more = withoutFinalSlashes s ++ "/" ++ rest := by
  obtain ⟨count, split, ends⟩ := exists_eq_append_slashes s
  cases count with
  | zero =>
      rcases goesOn with last | ⟨rest, rfl⟩
      · exact (ends last rfl).elim
      · refine ⟨rest, ?_⟩
        rw [← String.toList_inj]
        simp [split]
  | succ count =>
      refine ⟨String.ofList (List.replicate count '/') ++ more, ?_⟩
      rw [← String.toList_inj]
      simp [split, List.replicate_succ]

theorem Under.exists_names (under : fs.Under root path) :
    ∃ names, names ≠ [] ∧ path = ⟨root.root, root.parts ++ names⟩ := by
  induction under with
  | @file directory names name => exact ⟨[name], by simp, rfl⟩
  | @within directory names name path _ _ _ _ _ induction =>
      obtain ⟨below, -, rfl⟩ := induction
      exact ⟨name :: below, by simp, by simp [Path.child]⟩

/-- The spelling of a path from the root goes on with a slash where names are added. -/
theorem exists_text_append (absolute : root.isAbsolute = true) {names : List String}
    (names_ne : names ≠ []) :
    ∃ more, (Path.mk root.root (root.parts ++ names)).text = root.text ++ more ∧
      (root.text.toList.getLast? = some '/' ∨ ∃ rest, more = "/" ++ rest) := by
  obtain ⟨start, parts⟩ := root
  have text := Path.text_mk (bne_iff_ne.mp absolute)
  rw [text, text]
  rcases eq_or_ne parts [] with rfl | parts_ne
  · refine ⟨"/".intercalate names, by simp, .inl ?_⟩
    cases start with
    | none => simp [Path.isAbsolute] at absolute
    | single => decide
    | double => decide
  · refine ⟨"/" ++ "/".intercalate names, ?_, .inr ⟨_, rfl⟩⟩
    simp only [String.intercalate_append_of_ne_nil parts_ne names_ne, String.append_assoc]

/-- A file below a root has a key that is spelled as a path below it. -/
theorem spells_of_under (absolute : root.isAbsolute = true) (under : fs.Under root path) :
    Spells root (relativePath (rootLength root) (unixPath path.text)) (unixPath path.text) := by
  obtain ⟨names, names_ne, rfl⟩ := Under.exists_names under
  obtain ⟨more, text, goesOn⟩ := exists_text_append absolute names_ne
  have unixGoesOn : (unixPath root.text).toList.getLast? = some '/' ∨
      ∃ rest, unixPath more = "/" ++ rest := by
    rcases goesOn with last | ⟨rest, rfl⟩
    · refine .inl ?_
      simp [unixPath, Text.replaceChar, last]
    · exact .inr ⟨unixPath rest, unixPath_append "/" rest⟩
  obtain ⟨rest, spelled⟩ := exists_append_eq unixGoesOn
  rw [text, unixPath_append, spelled]
  have below : Spells root rest (withoutFinalSlashes (unixPath root.text) ++ "/" ++ rest) := rfl
  rw [relativePath_of_spells below]
  exact below

/-! ## The passes together -/

theorem unfailed_of_collectTests
    (unfailed : (collectTests fs pass project outcome directories).failure = none) :
    outcome.failure = none := by
  cases directories with
  | nil => exact unfailed
  | cons directory directories =>
      rw [collectTests] at unfailed
      cases stopped : outcome.failure with
      | none => rfl
      | some e =>
          simp only [stopped] at unfailed
          contradiction

theorem holds_collectTests_iff (tree : fs.IsTree) (quiet : pass.journal = none)
    (unfailed : (collectTests fs pass project outcome directories).failure = none) :
    (collectTests fs pass project outcome directories).files.Holds key ↔
      outcome.files.Holds key ∨
        ∃ directory ∈ directories, Finds fs pass (fs.fromRoot (project.below directory)) key := by
  induction directories generalizing outcome with
  | nil => simp [collectTests]
  | cons directory directories induction =>
      have begun := unfailed_of_collectTests unfailed
      rw [collectTests] at unfailed ⊢
      simp only [begun, quiet, Journal.after_none] at unfailed ⊢
      have passed := unfailed_of_collectTests unfailed
      rw [induction unfailed, holds_discover_iff tree quiet passed]
      simp [or_assoc]

/-- The pass over a project that gives its exclusions, with no journal. -/
def projectPass (spec : ProjectSpec) (accepts : Acceptance) : Pass :=
  ⟨spec.exclusionSet, .main, accepts, none⟩

/-- The files of a project are those that the pass over its directory or one over a test directory
finds. -/
theorem holds_collect_iff (tree : fs.IsTree)
    (returned : (collect fs (projectPass spec accepts) spec project).failure = none) :
    (collect fs (projectPass spec accepts) spec project).files.Holds key ↔
      Finds fs (projectPass spec accepts) (fs.fromRoot project) key ∨
        ∃ directory ∈ spec.testDirs,
          Finds fs (projectPass spec accepts) (fs.fromRoot (project.below directory)) key := by
  have passed := unfailed_of_collectTests returned
  rw [collect, holds_collectTests_iff tree rfl returned, holds_discover_iff tree rfl passed]
  simp [ProjectFiles.not_holds_empty]

/-! ## Exclusions over all passes -/

/-- No standard glob matches a file of a project. The globs that the project gives match none either
unless a pass over a test directory finds one that they match. -/
theorem exclusions_hold_iff (tree : fs.IsTree)
    (returned : (collect fs (projectPass spec accepts) spec project).failure = none) :
    (∀ key, (collect fs (projectPass spec accepts) spec project).files.Holds key →
      standardExclusions.excludes key = false) ∧
    ((∀ key relative, (collect fs (projectPass spec accepts) spec project).files.Holds key →
        Spells (fs.fromRoot project) relative key →
          spec.givenExclusions.excludes relative = false) ↔
      ∀ directory ∈ spec.testDirs, ∀ key relative,
        Finds fs (projectPass spec accepts) (fs.fromRoot (project.below directory)) key →
          Spells (fs.fromRoot project) relative key →
            spec.givenExclusions.excludes relative = false) := by
  have included {root path : Path} (taken : Takes fs (projectPass spec accepts) root path) :=
    (spec.excludes_exclusionSet _ _).symm.trans taken.included
  simp only [Bool.or_eq_false_iff] at included
  simp only [holds_collect_iff tree returned]
  refine ⟨?_, ?_⟩
  · rintro key (⟨path, -, taken, rfl⟩ | ⟨directory, -, path, -, taken, rfl⟩)
    · exact (included taken).2
    · exact (included taken).2
  · constructor
    · intro hold directory member key relative found spelled
      exact hold key relative (.inr ⟨directory, member, found⟩) spelled
    · rintro hold key relative (⟨path, -, taken, rfl⟩ | ⟨directory, member, found⟩) spelled
      · rw [← relativePath_of_spells spelled]
        exact (included taken).1.1
      · exact hold directory member key relative found spelled

/-- A script in a directory of generated tests. -/
def generatedTests : FileSystem :=
  { entries := [(["w"], .directory false), (["w", "p"], .directory false),
      (["w", "p", "test"], .directory false), (["w", "p", "test", "gen"], .directory false),
      (["w", "p", "test", "gen", "a.js"], .file [] false)]
    current := ["w"]
    homes := [] }

/-- A project that leaves out the generated ones of its tests. -/
def withoutGenerated : ProjectSpec :=
  { name := "p", testDir := some "test", exclusions := some "test/gen/**" }

/-- The pass over such a project, which accepts every script. -/
def passWithoutGenerated : Pass := projectPass withoutGenerated fun _ _ => true

/-- The script is collected there, and the project leaves it out. -/
theorem generatedTests_collected :
    let outcome := collect generatedTests passWithoutGenerated withoutGenerated (Path.parse "p")
    outcome.failure = none ∧ "/w/p/test/gen/a.js" ∈ (outcome.files.group .script).keys ∧
      withoutGenerated.givenExclusions.excludes "test/gen/a.js" = true := by
  decide +kernel

theorem exclusions_hold_iff_generatedTests :
    let outcome := collect generatedTests passWithoutGenerated withoutGenerated (Path.parse "p")
    generatedTests.IsTree ∧ outcome.failure = none ∧
      (∀ key, outcome.files.Holds key → standardExclusions.excludes key = false) ∧
      ((∀ key relative, outcome.files.Holds key →
          Spells (generatedTests.fromRoot (Path.parse "p")) relative key →
            withoutGenerated.givenExclusions.excludes relative = false) ↔
        ∀ directory ∈ withoutGenerated.testDirs, ∀ key relative,
          Finds generatedTests passWithoutGenerated
            (generatedTests.fromRoot ((Path.parse "p").below directory)) key →
          Spells (generatedTests.fromRoot (Path.parse "p")) relative key →
            withoutGenerated.givenExclusions.excludes relative = false) := by
  have tree : generatedTests.IsTree := by decide
  have unfailed := generatedTests_collected.1
  exact ⟨tree, unfailed, exclusions_hold_iff tree unfailed⟩

/-- The pass over the tests finds a script that the project leaves out. -/
theorem generatedTests_holds_excluded :
    let outcome := collect generatedTests passWithoutGenerated withoutGenerated (Path.parse "p")
    outcome.failure = none ∧ outcome.files.Holds "/w/p/test/gen/a.js" ∧
      Spells (generatedTests.fromRoot (Path.parse "p")) "test/gen/a.js" "/w/p/test/gen/a.js" ∧
      withoutGenerated.givenExclusions.excludes "test/gen/a.js" = true := by
  obtain ⟨unfailed, member, excluded⟩ := generatedTests_collected
  exact ⟨unfailed, ⟨.script, member⟩, by rfl, excluded⟩

/-! ## Files of test directories -/

/-- A candidate below a project that is accepted and that neither the given nor the standard globs
match is a file of the project unless the globs of the test directories match it and no pass over a
test directory finds it. -/
theorem holds_iff_of_testDirs (tree : fs.IsTree)
    (returned : (collect fs (projectPass spec accepts) spec project).failure = none)
    (under : fs.Under (fs.fromRoot project) path)
    (spelled : Spells (fs.fromRoot project) relative (unixPath path.text))
    (candidate : Source.isCandidate (unixPath path.text) = true)
    (included : spec.givenExclusions.excludes relative = false)
    (standard : standardExclusions.excludes (unixPath path.text) = false)
    (accepted : ∀ bytes, fs.read path = .ok bytes →
      Source.family (unixPath path.text) = .script →
        accepts (unixPath path.text) (contentOf bytes) = true) :
    (collect fs (projectPass spec accepts) spec project).files.Holds (unixPath path.text) ↔
      spec.testExclusions.excludes relative = false ∨
        ∃ directory ∈ spec.testDirs,
          Finds fs (projectPass spec accepts) (fs.fromRoot (project.below directory))
            (unixPath path.text) := by
  have passed := unfailed_of_collectTests returned
  rw [holds_collect_iff tree returned]
  refine or_congr ?_ Iff.rfl
  constructor
  · rintro ⟨other, -, taken, same⟩
    have left := taken.included
    rw [← same, relativePath_of_spells spelled, projectPass, spec.excludes_exclusionSet] at left
    simp only [Bool.or_eq_false_iff] at left
    exact left.1.2
  · intro untested
    refine ⟨path, under, ?_, rfl⟩
    refine takes_of_unfailed tree rfl passed under ?_ candidate accepted
    rw [relativePath_of_spells spelled, projectPass, spec.excludes_exclusionSet]
    simp [included, untested, standard]

/-- A script in a directory below the tests that is named like that of the tests. -/
def nestedTests : FileSystem :=
  { entries := [(["w"], .directory false), (["w", "p"], .directory false),
      (["w", "p", "test"], .directory false), (["w", "p", "test", "test"], .directory false),
      (["w", "p", "test", "test", "a.js"], .file [] false)]
    current := ["w"]
    homes := [] }

/-- A project that says where its tests are. -/
def withTests : ProjectSpec := { name := "p", testDir := some "test" }

/-- The pass over such a project, which accepts every script. -/
def passWithTests : Pass := projectPass withTests fun _ _ => true

theorem nestedTests_under :
    nestedTests.Under (nestedTests.fromRoot (Path.parse "p"))
      (Path.parse "/w/p/test/test/a.js") := by
  have whole : nestedTests.fromRoot (Path.parse "p") = ⟨.single, ["w", "p"]⟩ := by rfl
  have spelled : Path.parse "/w/p/test/test/a.js" =
      (((Path.mk .single ["w", "p"]).child "test").child "test").child "a.js" := by
    rfl
  have outer : nestedTests.list ⟨.single, ["w", "p"]⟩ = .ok ["test"] :=
    congrArg Except.ok (List.mergeSort_singleton "test")
  have tests : nestedTests.list ((Path.mk .single ["w", "p"]).child "test") = .ok ["test"] :=
    congrArg Except.ok (List.mergeSort_singleton "test")
  have inner : nestedTests.list (((Path.mk .single ["w", "p"]).child "test").child "test") =
      .ok ["a.js"] :=
    congrArg Except.ok (List.mergeSort_singleton "a.js")
  rw [whole, spelled]
  refine .within outer (List.mem_singleton_self "test") (by rfl) (by rfl) ?_
  refine .within tests (List.mem_singleton_self "test") (by rfl) (by rfl) ?_
  exact .file inner (List.mem_singleton_self "a.js") (by rfl)

/-- The script there is a candidate that only the globs of the test directory match, and it is not
collected. -/
theorem nestedTests_collected :
    let outcome := collect nestedTests passWithTests withTests (Path.parse "p")
    Source.isCandidate "/w/p/test/test/a.js" = true ∧
      withTests.givenExclusions.excludes "test/test/a.js" = false ∧
      standardExclusions.excludes "/w/p/test/test/a.js" = false ∧ outcome.failure = none ∧
      ∀ family ∈ Family.all, "/w/p/test/test/a.js" ∉ (outcome.files.group family).keys := by
  decide +kernel

theorem holds_iff_of_testDirs_nestedTests :
    let outcome := collect nestedTests passWithTests withTests (Path.parse "p")
    nestedTests.IsTree ∧ outcome.failure = none ∧
      (outcome.files.Holds (unixPath (Path.parse "/w/p/test/test/a.js").text) ↔
        withTests.testExclusions.excludes "test/test/a.js" = false ∨
          ∃ directory ∈ withTests.testDirs,
            Finds nestedTests passWithTests
              (nestedTests.fromRoot ((Path.parse "p").below directory))
              (unixPath (Path.parse "/w/p/test/test/a.js").text)) := by
  have tree : nestedTests.IsTree := by decide
  have spelled : unixPath (Path.parse "/w/p/test/test/a.js").text = "/w/p/test/test/a.js" := by rfl
  obtain ⟨candidate, given, standard, unfailed, -⟩ := nestedTests_collected
  refine ⟨tree, unfailed, ?_⟩
  exact holds_iff_of_testDirs tree unfailed nestedTests_under (by rfl)
    (by rw [spelled, candidate]) given (by rw [spelled, standard]) fun _ _ _ => rfl

/-- No pass finds a script that nothing but the test directory leaves out. -/
theorem nestedTests_loses_script :
    let outcome := collect nestedTests passWithTests withTests (Path.parse "p")
    outcome.failure = none ∧
      nestedTests.Under (nestedTests.fromRoot (Path.parse "p")) (Path.parse "/w/p/test/test/a.js") ∧
      (Path.parse "/w/p/test/test/a.js").text = "/w/p/test/test/a.js" ∧
      Source.isCandidate "/w/p/test/test/a.js" = true ∧
      Spells (nestedTests.fromRoot (Path.parse "p")) "test/test/a.js" "/w/p/test/test/a.js" ∧
      withTests.givenExclusions.excludes "test/test/a.js" = false ∧
      standardExclusions.excludes "/w/p/test/test/a.js" = false ∧
      ¬outcome.files.Holds "/w/p/test/test/a.js" := by
  obtain ⟨candidate, given, standard, unfailed, missed⟩ := nestedTests_collected
  refine ⟨unfailed, nestedTests_under, by rfl, candidate, by rfl, given, standard, ?_⟩
  rintro ⟨family, member⟩
  exact missed family (by cases family <;> decide) member

end Discovery

end Baseline
