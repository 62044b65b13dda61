import Baseline.Proofs.Discovery.Collection
import Baseline.Proofs.Discovery.Growth
import Baseline.Proofs.Glob.Inside

/-!
# Which role a file of a project has

A file keeps the role of the first pass that finds it, and the pass over the project itself comes
first. So a file below a test directory has the role of a test exactly if the globs of the test
directories keep it from that pass, which they do where the directories are spelled plainly.
-/

namespace Baseline.Discovery

open Glob FileSystem

variable {fs : FileSystem} {pass : Pass} {spec : ProjectSpec} {project root path : Path}
  {outcome : Outcome} {files : ProjectFiles} {family : Family} {paths : List Path}
  {directories : List String} {accepts : Acceptance} {key relative absolute content : String}
  {entry : String × SourceFile} {file : SourceFile}

/-! ## Entries of a pass -/

theorem role_of_recordOf? (recorded : recordOf? pass absolute content = some (family, file)) :
    file.role = pass.role := by
  unfold recordOf? at recorded
  split at recorded
  · cases recorded
  · split at recorded
    · cases recorded
    · cases recorded
      rfl

theorem role_of_taken? (taken : taken? fs pass root path = some (family, file)) :
    file.role = pass.role := by
  unfold taken? at taken
  dsimp only at taken
  split at taken
  · cases taken
  · split at taken
    · cases taken
    · split at taken
      · cases taken
      · exact role_of_recordOf? taken

/-- An entry of a group was there before or is one of a file that the pass takes, with its role. -/
theorem mem_take (member : entry ∈ ((take fs pass root files path).group family).entries) :
    entry ∈ (files.group family).entries ∨
      entry.2.role = pass.role ∧ Takes fs pass root path ∧ entry.1 = unixPath path.text := by
  unfold take at member
  split at member
  next => exact .inl member
  next other file taken =>
    rcases files.entries_add other family (unixPath path.text) file with same | ⟨-, grown⟩
    · rw [same] at member
      exact .inl member
    · rw [grown, List.mem_append, List.mem_singleton] at member
      rcases member with member | rfl
      · exact .inl member
      · exact .inr ⟨role_of_taken? taken, isSome_taken?_iff.mp (by rw [taken]; rfl), rfl⟩

theorem mem_foldl_take
    (member : entry ∈ ((paths.foldl (take fs pass root) files).group family).entries) :
    entry ∈ (files.group family).entries ∨
      entry.2.role = pass.role ∧
        ∃ path ∈ paths, Takes fs pass root path ∧ entry.1 = unixPath path.text := by
  induction paths generalizing files with
  | nil => exact .inl member
  | cons path paths induction =>
      rcases induction member with member | ⟨role, other, member, taken⟩
      · rcases mem_take member with member | ⟨role, taken⟩
        · exact .inl member
        · exact .inr ⟨role, path, List.mem_cons_self, taken⟩
      · exact .inr ⟨role, other, List.mem_cons_of_mem _ member, taken⟩

/-- A pass that is not stopped adds entries of files that it finds, with its role. -/
theorem mem_discover (tree : fs.IsTree) (quiet : pass.journal = none)
    (unfailed : (discover fs pass root files).failure = none)
    (member : entry ∈ ((discover fs pass root files).files.group family).entries) :
    entry ∈ (files.group family).entries ∨
      entry.2.role = pass.role ∧ Finds fs pass (fs.fromRoot root) entry.1 := by
  have same := discover_eq_scan unfailed
  rw [same] at unfailed member
  obtain ⟨unstopped, visited, gathered⟩ := scan_of_unfailed unfailed
  rw [gathered, files_visitAll quiet visited] at member
  rcases mem_foldl_take member with member | ⟨role, path, met, taken⟩
  · exact .inl member
  · exact .inr ⟨role, path, (mem_files_walk_iff tree unstopped).mp met, taken⟩

theorem mem_collectTests (tree : fs.IsTree) (quiet : pass.journal = none)
    (unfailed : (collectTests fs pass project outcome directories).failure = none)
    (member : entry ∈
      ((collectTests fs pass project outcome directories).files.group family).entries) :
    entry ∈ (outcome.files.group family).entries ∨
      entry.2.role = pass.role ∧ ∃ directory ∈ directories,
        Finds fs pass (fs.fromRoot (project.below directory)) entry.1 := by
  induction directories generalizing outcome with
  | nil => exact .inl member
  | cons directory directories induction =>
      have begun := unfailed_of_collectTests unfailed
      rw [collectTests] at unfailed member
      simp only [begun, quiet, Journal.after_none] at unfailed member
      have passed := unfailed_of_collectTests unfailed
      rcases induction unfailed member with member | ⟨role, other, listed, found⟩
      · rcases mem_discover tree quiet passed member with member | ⟨role, found⟩
        · exact .inl member
        · exact .inr ⟨role, directory, List.mem_cons_self, found⟩
      · exact .inr ⟨role, other, List.mem_cons_of_mem _ listed, found⟩

/-! ## Roles in a project -/

/-- A key is spelled as a path below a test directory of a project. -/
def InTests (fs : FileSystem) (spec : ProjectSpec) (project : Path) (key : String) : Prop :=
  ∃ directory ∈ spec.testDirs, ∃ relative,
    Spells (fs.fromRoot (project.below directory)) relative key

theorem isAbsolute_fromRoot (fs : FileSystem) (path : Path) :
    (fs.fromRoot path).isAbsolute = true := by
  unfold FileSystem.fromRoot FileSystem.absolute Path.join
  split
  · assumption
  · rfl

theorem exists_spells_of_finds (found : Finds fs pass (fs.fromRoot root) key) :
    ∃ relative, Spells (fs.fromRoot root) relative key := by
  obtain ⟨path, under, -, rfl⟩ := found
  exact ⟨_, spells_of_under (isAbsolute_fromRoot fs root) under⟩

/-- What the pass over a project finds is filed with the main role and stays so. -/
theorem exists_main_of_finds (tree : fs.IsTree)
    (returned : (collect fs (projectPass spec accepts) spec project).failure = none)
    (found : Finds fs (projectPass spec accepts) (fs.fromRoot project) key) :
    ∃ family file, file.role = .main ∧
      (key, file) ∈
        ((collect fs (projectPass spec accepts) spec project).files.group family).entries := by
  have passed := unfailed_of_collectTests returned
  obtain ⟨family, member⟩ := (holds_discover_iff tree rfl passed).mpr (.inr (by simpa using found))
  obtain ⟨file, member⟩ := Keyed.mem_keys_iff.mp member
  let first := discover fs { projectPass spec accepts with role := .main } project ∅
  have begun : Quietly (∅ : ProjectFiles).Extends first.files first.logs :=
    quietly_discover (ProjectFiles.keptByAdding_extends ∅) (.refl ∅)
  have grown : first.files.Extends
      (collect fs (projectPass spec accepts) spec project).files :=
    (quietly_collectTests (ProjectFiles.keptByAdding_extends _) ⟨.refl _, begun.quiet⟩).kept
  refine ⟨family, file, ?_, (grown family).subset member⟩
  rcases mem_discover tree rfl passed member with none | ⟨role, -⟩
  · cases family <;> cases none
  · exact role

/-- A file of a project has the main role if the pass over the project finds it, and otherwise the
role of a test, and then lies below a test directory. -/
theorem role_cases (tree : fs.IsTree)
    (returned : (collect fs (projectPass spec accepts) spec project).failure = none)
    (member : entry ∈
      ((collect fs (projectPass spec accepts) spec project).files.group family).entries) :
    entry.2.role = .main ∧ Finds fs (projectPass spec accepts) (fs.fromRoot project) entry.1 ∨
      entry.2.role = .test ∧
        ¬Finds fs (projectPass spec accepts) (fs.fromRoot project) entry.1 ∧
        InTests fs spec project entry.1 := by
  have passed := unfailed_of_collectTests returned
  rcases mem_collectTests tree rfl returned member with first | ⟨role, directory, listed, found⟩
  · rcases mem_discover tree rfl passed first with none | ⟨role, found⟩
    · cases family <;> cases none
    · exact .inl ⟨role, by simpa using found⟩
  · refine .inr ⟨role, fun again => ?_, directory, listed, exists_spells_of_finds found⟩
    obtain ⟨other, file, main, also⟩ := exists_main_of_finds tree returned again
    have filed : (collect fs (projectPass spec accepts) spec project).files.IsFiled :=
      (quietly_collect ProjectFiles.keptByAdding_isFiled ProjectFiles.isFiled_empty).kept
    obtain rfl : other = family :=
      (filed other _ (Keyed.mem_keys_iff.mpr ⟨_, also⟩)).symm.trans
        (filed family _ (Keyed.mem_keys_iff.mpr ⟨_, member⟩))
    rw [← Keyed.get?_eq_some_iff] at also
    have same := also.symm.trans (Keyed.get?_eq_some_iff.mpr member)
    rw [← Option.some.inj same, main] at role
    cases role

/-! ## Spellings below plain directories -/

/-- Below a root there is one slash after its spelling: it is the root of one slash, or its spelling
does not end with a slash. -/
def EndsOpen (root : Path) : Prop :=
  root = ⟨.single, []⟩ ∨ (unixPath root.text).toList.getLast? ≠ some '/'

theorem withoutFinalSlashes_of_getLast? {s : String} (last : s.toList.getLast? ≠ some '/') :
    withoutFinalSlashes s = s := by
  obtain ⟨count, split, -⟩ := exists_eq_append_slashes s
  cases count with
  | zero =>
      rw [← String.toList_inj, split]
      simp
  | succ count =>
      rw [split, List.replicate_succ', ← List.append_assoc, List.getLast?_concat] at last
      exact (last rfl).elim

/-- A name below such a root is spelled with one slash before it. -/
theorem unixPath_child (absolute : root.isAbsolute = true) (endsOpen : EndsOpen root)
    (name : String) :
    unixPath (root.child name).text =
      withoutFinalSlashes (unixPath root.text) ++ "/" ++ unixPath name := by
  rcases endsOpen with rfl | last
  · have text : ((Path.mk .single []).child name).text = "/" ++ name := by
      simp [Path.child, Path.text, Root.text]
    have nothing : withoutFinalSlashes (unixPath (Path.mk .single []).text) = "" := by rfl
    rw [text, nothing, unixPath_append]
    rfl
  · rw [withoutFinalSlashes_of_getLast? last]
    obtain ⟨start, parts⟩ := root
    have text := Path.text_mk (bne_iff_ne.mp absolute)
    have some : parts ≠ [] := by
      rintro rfl
      cases start with
      | none => cases absolute
      | single => exact last (by rfl)
      | double => exact last (by rfl)
    have slash : unixPath "/" = "/" := by rfl
    rw [Path.child, text, text, String.intercalate_append_of_ne_nil some (by simp),
      ← String.append_assoc, ← String.append_assoc, unixPath_append, unixPath_append _ "/", slash]
    simp

theorem endsOpen_child (absolute : root.isAbsolute = true) (endsOpen : EndsOpen root)
    {name : String} (name_ne : name.toList ≠ []) (whole : '/' ∉ name.toList)
    (plain : '\\' ∉ name.toList) :
    (unixPath (root.child name).text).toList.getLast? ≠ some '/' := by
  rw [unixPath_child absolute endsOpen, unixPath_of_not_mem plain, String.toList_append,
    List.getLast?_append_of_ne_nil _ name_ne]
  intro last
  exact whole (List.mem_of_getLast? last)

/-- Names below such a root are spelled with a slash after each. -/
theorem spells_along {names : List (List Char)} (absolute : root.isAbsolute = true)
    (endsOpen : EndsOpen root) (names_ne : ∀ name ∈ names, name ≠ [] ∧ '/' ∉ name)
    (plain : ∀ name ∈ names, '\\' ∉ name)
    (spelled : Spells ⟨root.root, root.parts ++ names.map String.ofList⟩ relative key) :
    Spells root (String.ofList (along names relative.toList)) key := by
  induction names generalizing root with
  | nil => simpa [along] using spelled
  | cons name names induction =>
      obtain ⟨⟨some, whole⟩, others⟩ := List.forall_mem_cons.mp names_ne
      obtain ⟨here, rest⟩ := List.forall_mem_cons.mp plain
      have last : (unixPath (root.child (String.ofList name)).text).toList.getLast? ≠ .some '/' :=
        endsOpen_child absolute endsOpen (by simpa using some) (by simpa using whole)
          (by simpa using here)
      have below : Spells (root.child (String.ofList name))
          (String.ofList (along names relative.toList)) key := by
        refine induction absolute (.inr last) others rest ?_
        simpa [Path.child] using spelled
      have same : unixPath (String.ofList name) = String.ofList name :=
        unixPath_of_not_mem (by simpa using here)
      rw [Spells, withoutFinalSlashes_of_getLast? last, unixPath_child absolute endsOpen, same]
        at below
      rw [Spells, below, along_cons, ← String.toList_inj]
      simp

/-! ## Plain test directories -/

/-- A trimmed text opens with a character that is not blank. -/
theorem isBlank_of_trim {cs start : List Char} {c : Char} (trimmed : Text.trim cs = c :: start) :
    Text.isBlank c = false := by
  have whole :=
    List.takeWhile_append_dropWhile (p := Text.isBlank) (l := (Text.trimLeft cs).reverse)
  have left : Text.trimLeft cs = c :: start ++
      ((Text.trimLeft cs).reverse.takeWhile Text.isBlank).reverse := by
    rw [← trimmed, Text.trim, Text.trimRight, ← List.reverse_append, whole, List.reverse_reverse]
  have opens := List.head?_dropWhile_not Text.isBlank cs
  rw [Text.trimLeft] at left
  rw [left] at opens
  exact opens

/-- A test directory is a text that is not empty and does not open with a blank, and the glob of
what is inside it is among the patterns. -/
theorem of_mem_testDirs {directory : String} (listed : directory ∈ spec.testDirs) :
    (∃ c start, directory.toList = c :: start ∧ Text.isBlank c = false) ∧
      (withoutFinalSlashes directory ≠ "" →
        insideGlob (withoutFinalSlashes directory) ∈ projectPatterns none spec.testDir) := by
  unfold ProjectSpec.testDirs at listed
  split at listed
  · cases listed
  · cases listed
  next text some_ne given =>
    obtain ⟨member, name⟩ := List.mem_filter.mp listed
    have directory_ne : directory ≠ "" := by simpa using name
    constructor
    · obtain ⟨piece, -, rfl⟩ := List.mem_map.mp member
      rw [Text.trimmed, String.toList_ofList]
      cases trimmed : Text.trim piece.toList with
      | nil =>
          rw [Text.trimmed, trimmed] at directory_ne
          exact (directory_ne rfl).elim
      | cons c start => exact ⟨c, start, rfl, isBlank_of_trim trimmed⟩
    · intro some
      rw [given, projectPatterns]
      · refine List.mem_append_right _ ?_
        exact List.mem_filterMap.mpr ⟨_, List.mem_map_of_mem member, by simp [some]⟩
      · exact some_ne

theorem directoryNames_replicate (count : Nat) :
    directoryNames (List.replicate count '/') = [] := by
  induction count with
  | zero => rfl
  | succ count induction =>
      rw [List.replicate_succ, ← List.nil_append ('/' :: _), directoryNames_append, induction]
      rfl

/-- Slashes at the end of a spelling change neither its names nor whether it is plain. -/
theorem plain_withoutFinalSlashes {directory : String} (plain : IsPlain directory)
    (some : withoutFinalSlashes directory ≠ "") :
    IsPlain (withoutFinalSlashes directory) ∧
      directoryNames directory.toList = directoryNames (withoutFinalSlashes directory).toList := by
  obtain ⟨relative, dotless, noClass, noBackslash⟩ := plain
  obtain ⟨count, parted, -⟩ := exists_eq_append_slashes directory
  have starts : (withoutFinalSlashes directory).toList ≠ [] := by
    rwa [ne_eq, String.toList_eq_nil_iff]
  rw [parted, List.head?_append_of_ne_nil _ starts] at relative
  rw [parted, List.mem_append, not_or] at noClass noBackslash
  cases count with
  | zero =>
      rw [List.replicate_zero, List.append_nil] at parted
      rw [parted] at dotless ⊢
      exact ⟨⟨relative, dotless, noClass.1, noBackslash.1⟩, rfl⟩
  | succ count =>
      have some : Text.pieces '/' (withoutFinalSlashes directory).toList ≠ [] :=
        Text.piecesBy_ne_nil _ _
      rw [List.replicate_succ] at parted
      rw [parted, Text.pieces_append_cons, List.tail_append_of_ne_nil some, List.mem_append, not_or]
        at dotless
      refine ⟨⟨relative, dotless.1, noClass.1, noBackslash.1⟩, ?_⟩
      rw [parted, directoryNames_append, directoryNames_replicate, List.append_nil]

/-- A path below the names of a plain test directory is matched by the globs of the test
directories. -/
theorem excludes_testExclusions {directory : String} (listed : directory ∈ spec.testDirs)
    (plain : IsPlain directory) (rest : List Char) :
    spec.testExclusions.excludes
      (String.ofList (along (directoryNames directory.toList) rest)) = true := by
  obtain ⟨⟨c, start, spelled, opens⟩, patterned⟩ := of_mem_testDirs listed
  obtain ⟨count, parted, -⟩ := exists_eq_append_slashes directory
  have relative : c ≠ '/' := by simpa [spelled] using plain.relative
  obtain ⟨start, starts⟩ : ∃ start, (withoutFinalSlashes directory).toList = c :: start := by
    cases starts : (withoutFinalSlashes directory).toList with
    | nil =>
        rw [starts, spelled, List.nil_append] at parted
        have slash := List.eq_of_mem_replicate (parted ▸ List.mem_cons_self)
        exact (relative slash).elim
    | cons d start =>
        rw [starts, spelled] at parted
        exact ⟨start, by rw [(List.cons.inj parted).1]⟩
  have some : withoutFinalSlashes directory ≠ "" := by
    rw [ne_eq, ← String.toList_inj, starts]
    simp
  obtain ⟨plain, names⟩ := plain_withoutFinalSlashes plain some
  obtain ⟨rule, read, matched⟩ := matches_insideGlob plain starts opens rest
  rw [names]
  exact List.any_eq_true.mpr ⟨rule, List.mem_filterMap.mpr ⟨_, patterned some, read⟩, matched⟩

/-- Below the current directory a test directory may name a home directory; elsewhere it is below
the project. -/
def NamesNoHome (fs : FileSystem) (project : Path) (directory : String) : Prop :=
  project = ⟨.none, []⟩ → fs.expandHome (Path.parse directory) = .ok (Path.parse directory)

theorem absolute_append (start : Root) (names more : List String) :
    fs.absolute ⟨start, names ++ more⟩ =
      ⟨(fs.absolute ⟨start, names⟩).root, (fs.absolute ⟨start, names⟩).parts ++ more⟩ := by
  unfold FileSystem.absolute Path.join Path.isAbsolute
  split
  · rfl
  · simp

/-- Names after those of a path are so from the root, since only the first one may stand for a home
directory. -/
theorem fromRoot_append {start : Root} {names more : List String}
    (homeless : Path.mk start names = ⟨.none, []⟩ →
      fs.expandHome ⟨.none, more⟩ = .ok ⟨.none, more⟩) :
    fs.fromRoot ⟨start, names ++ more⟩ =
      ⟨(fs.fromRoot ⟨start, names⟩).root, (fs.fromRoot ⟨start, names⟩).parts ++ more⟩ := by
  cases start with
  | single => exact absolute_append _ _ _
  | double => exact absolute_append _ _ _
  | none =>
      cases names with
      | nil =>
          rw [List.nil_append, fromRoot, homeless rfl]
          exact absolute_append .none [] more
      | cons first rest =>
          unfold fromRoot expandHome
          simp only [List.cons_append]
          split
          · split
            · exact List.append_assoc _ rest more ▸ absolute_append _ _ _
            · exact absolute_append .none (first :: rest) more
          · exact absolute_append .none (first :: rest) more

/-- A relative test directory is spelled from the root by its names below the project. -/
theorem fromRoot_below {directory : String} (relative : directory.toList.head? ≠ some '/')
    (homeless : NamesNoHome fs project directory) :
    fs.fromRoot (project.below directory) =
      ⟨(fs.fromRoot project).root, (fs.fromRoot project).parts ++
        (directoryNames directory.toList).map String.ofList⟩ := by
  have unrooted : (Path.parse directory).isAbsolute = false := by
    rw [Path.parse, Path.isAbsolute]
    cases spelled : directory.toList with
    | nil => rfl
    | cons c rest =>
        have differs : c ≠ '/' := by simpa [spelled] using relative
        unfold Path.rootOf
        split <;> simp_all
  rw [← parts_parse]
  have joined : project.below directory =
      ⟨project.root, project.parts ++ (Path.parse directory).parts⟩ := by
    rw [Path.below, Path.join, unrooted]
    rfl
  have rootless : Path.parse directory = ⟨.none, (Path.parse directory).parts⟩ := by
    have root : (Path.parse directory).root = .none := by simpa [Path.isAbsolute] using unrooted
    rw [← root]
  rw [joined]
  exact fromRoot_append fun here => rootless ▸ homeless here

/-- The pass over a project finds nothing below a plain test directory. -/
theorem not_inTests_of_finds (endsOpen : EndsOpen (fs.fromRoot project))
    (plain : ∀ directory ∈ spec.testDirs, IsPlain directory ∧ NamesNoHome fs project directory)
    (found : Finds fs (projectPass spec accepts) (fs.fromRoot project) key) :
    ¬InTests fs spec project key := by
  rintro ⟨directory, listed, relative, spelled⟩
  obtain ⟨path, under, taken, rfl⟩ := found
  obtain ⟨here, homeless⟩ := plain directory listed
  rw [fromRoot_below here.relative homeless] at spelled
  have below : Spells (fs.fromRoot project)
      (String.ofList (along (directoryNames directory.toList) relative.toList))
      (unixPath path.text) :=
    spells_along (isAbsolute_fromRoot fs project) endsOpen
      (fun name member => ⟨(of_mem_directoryNames member).1, (of_mem_directoryNames member).2.1⟩)
      (fun name member slashed =>
        here.literal.2 ((of_mem_directoryNames member).2.2 slashed)) spelled
  have left := taken.included
  rw [relativePath_of_spells below, projectPass, spec.excludes_exclusionSet,
    excludes_testExclusions listed here] at left
  simp at left

/-- A file of a project has the main role exactly if the pass over the project finds it, and lies
below a test directory where it has the role of a test. So the files with the role of a test are all
those below test directories exactly if the pass over the project finds none of them, and they are
where the test directories are spelled plainly and name no home directories. -/
theorem roles_right_iff (tree : fs.IsTree)
    (returned : (collect fs (projectPass spec accepts) spec project).failure = none) :
    let files := (collect fs (projectPass spec accepts) spec project).files
    (∀ family, ∀ entry ∈ (files.group family).entries,
      (entry.2.role = .main ↔
          Finds fs (projectPass spec accepts) (fs.fromRoot project) entry.1) ∧
        (entry.2.role = .test → InTests fs spec project entry.1)) ∧
    ((∀ family, ∀ entry ∈ (files.group family).entries,
        (entry.2.role = .test ↔ InTests fs spec project entry.1)) ↔
      ∀ key, Finds fs (projectPass spec accepts) (fs.fromRoot project) key →
        ¬InTests fs spec project key) ∧
    (EndsOpen (fs.fromRoot project) →
      (∀ directory ∈ spec.testDirs, IsPlain directory ∧ NamesNoHome fs project directory) →
      ∀ family, ∀ entry ∈ (files.group family).entries,
        (entry.2.role = .test ↔ InTests fs spec project entry.1)) := by
  intro files
  have right_iff : (∀ family, ∀ entry ∈ (files.group family).entries,
      (entry.2.role = .test ↔ InTests fs spec project entry.1)) ↔
      ∀ key, Finds fs (projectPass spec accepts) (fs.fromRoot project) key →
        ¬InTests fs spec project key := by
    constructor
    · intro right key found inTests
      obtain ⟨family, file, main, member⟩ := exists_main_of_finds tree returned found
      have test := (right family _ member).mpr inTests
      rw [main] at test
      cases test
    · intro apart family entry member
      rcases role_cases tree returned member with ⟨main, found⟩ | ⟨test, -, inTests⟩
      · exact iff_of_false (by rw [main]; decide) (apart entry.1 found)
      · exact iff_of_true test inTests
  refine ⟨fun family entry member => ?_, right_iff, fun endsOpen plain => right_iff.mpr ?_⟩
  · rcases role_cases tree returned member with ⟨main, found⟩ | ⟨test, missed, inTests⟩
    · exact ⟨iff_of_true main found, fun test => by rw [main] at test; cases test⟩
    · exact ⟨iff_of_false (by rw [test]; decide) missed, fun _ => inTests⟩
  · exact fun key found => not_inTests_of_finds endsOpen plain found

/-- A script in a directory of unit tests. -/
def unitTests : FileSystem :=
  { entries := [(["w"], .directory false), (["w", "p"], .directory false),
      (["w", "p", "test"], .directory false), (["w", "p", "test", "unit"], .directory false),
      (["w", "p", "test", "unit", "a.js"], .file [] false)]
    current := ["w"]
    homes := [] }

/-- A project that spells the directory of its unit tests plainly. -/
def withUnitTests : ProjectSpec := { name := "p", testDir := some "test/unit" }

/-- A project that spells it with a single dot. -/
def withDottedTests : ProjectSpec := { name := "p", testDir := some "test/./unit" }

/-- The files that are found where every script is accepted. -/
def unitFiles (spec : ProjectSpec) : Outcome :=
  collect unitTests (projectPass spec fun _ _ => true) spec (Path.parse "p")

/-- The script is collected there, and with the main role where the directory is spelled with a
dot. -/
theorem unitTests_collected :
    (unitFiles withUnitTests).failure = none ∧ (unitFiles withDottedTests).failure = none ∧
      ∃ entry ∈ ((unitFiles withDottedTests).files.group .script).entries,
        entry.1 = "/w/p/test/unit/a.js" ∧ entry.2.role = .main := by
  decide +kernel

theorem roles_right_iff_unitTests :
    unitTests.IsTree ∧ (unitFiles withUnitTests).failure = none ∧
      (∀ family, ∀ entry ∈ ((unitFiles withUnitTests).files.group family).entries,
        (entry.2.role = .test ↔ InTests unitTests withUnitTests (Path.parse "p") entry.1)) ∧
      unitTests.IsTree ∧ (unitFiles withDottedTests).failure = none ∧
      ((∀ family, ∀ entry ∈ ((unitFiles withDottedTests).files.group family).entries,
          (entry.2.role = .test ↔ InTests unitTests withDottedTests (Path.parse "p") entry.1)) ↔
        ∀ key, Finds unitTests (projectPass withDottedTests fun _ _ => true)
            (unitTests.fromRoot (Path.parse "p")) key →
          ¬InTests unitTests withDottedTests (Path.parse "p") key) := by
  have tree : unitTests.IsTree := by decide
  obtain ⟨plainly, dotted, -⟩ := unitTests_collected
  have endsOpen : EndsOpen (unitTests.fromRoot (Path.parse "p")) := .inr (by decide)
  have listed : withUnitTests.testDirs = ["test/unit"] := by rfl
  have plain : ∀ directory ∈ withUnitTests.testDirs,
      IsPlain directory ∧ NamesNoHome unitTests (Path.parse "p") directory := by
    rw [listed, List.forall_mem_singleton]
    exact ⟨⟨by decide, by decide, by decide, by decide⟩, fun here => absurd here (by decide)⟩
  exact ⟨tree, plainly, (roles_right_iff tree plainly).2.2 endsOpen plain, tree, dotted,
    (roles_right_iff tree dotted).2.1⟩

/-- The glob of the spelling with a dot matches nothing, so the pass over the project takes the
script below the test directory. -/
theorem unitTests_main :
    (unitFiles withDottedTests).failure = none ∧
      (∃ entry ∈ ((unitFiles withDottedTests).files.group .script).entries,
        entry.1 = "/w/p/test/unit/a.js" ∧ entry.2.role = .main) ∧
      InTests unitTests withDottedTests (Path.parse "p") "/w/p/test/unit/a.js" := by
  obtain ⟨-, unfailed, main⟩ := unitTests_collected
  have listed : withDottedTests.testDirs = ["test/./unit"] := by rfl
  refine ⟨unfailed, main, "test/./unit", ?_, "a.js", by rfl⟩
  rw [listed]
  exact List.mem_singleton_self _

end Baseline.Discovery
