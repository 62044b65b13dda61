import Baseline.Discovery
import Baseline.Proofs.FileSystem.Walk
import Baseline.Proofs.Keyed

/-!
# What a pass takes

A pass that is not stopped puts the files it takes, one after the other, in the group of their
family. Which files those are depends on each file alone: on its path below the root of the pass,
its extension and its content.
-/

namespace Baseline

namespace ProjectFiles

variable {files : ProjectFiles} {family other : Family} {path key : String} {file : SourceFile}

/-- Whether a path is one of those in the groups. -/
def Holds (files : ProjectFiles) (path : String) : Prop := ∃ family, path ∈ (files.group family).keys

theorem not_holds_empty (path : String) : ¬ (∅ : ProjectFiles).Holds path := by
  rintro ⟨family, member⟩
  cases family <;> contradiction

theorem holds_add_iff : (files.add family path file).Holds key ↔ files.Holds key ∨ key = path := by
  unfold add
  simp only
  split
  · rename_i present
    have there : path ∈ (files.group family).keys := Keyed.contains_iff.mp present
    constructor
    · exact .inl
    · rintro (held | rfl)
      · exact held
      · exact ⟨family, there⟩
  · simp only [Holds, group_setGroup]
    constructor
    · rintro ⟨other, member⟩
      split at member
      · rename_i same
        subst same
        rcases Keyed.mem_keys_put.mp member with member | rfl
        · exact .inl ⟨_, member⟩
        · exact .inr rfl
      · exact .inl ⟨other, member⟩
    · rintro (⟨other, member⟩ | rfl)
      · refine ⟨other, ?_⟩
        split
        · rename_i same
          subst same
          exact Keyed.mem_keys_put.mpr (.inl member)
        · exact member
      · exact ⟨family, by simp [Keyed.mem_keys_put]⟩

end ProjectFiles

namespace Discovery

open FileSystem

variable {fs : FileSystem} {pass : Pass} {root path : Path} {found : Found} {files : ProjectFiles}
  {paths : List Path} {absolute relative content key : String}

/-- The record that a pass makes of a content, with the family of the file, if it takes it. -/
def recordOf? (pass : Pass) (absolute content : String) : Option (Family × SourceFile) :=
  match Source.classify absolute content with
  | none => none
  | some (language, family) =>
    if family == .script && !pass.accepts absolute content then none
    else some (family, ⟨content, pass.role, language⟩)

/-- The record that a pass over a root makes of the file at a path, if it takes it. -/
def taken? (fs : FileSystem) (pass : Pass) (root path : Path) : Option (Family × SourceFile) :=
  let absolute := unixPath path.text
  if pass.exclusions.excludes (relativePath (rootLength root) absolute) absolute then none
  else if !Source.isCandidate absolute then none
  else
    match fs.read path with
    | .error _ => none
    | .ok bytes => recordOf? pass absolute (contentOf bytes)

/-- The files with the one at a path, if a pass takes it. -/
def take (fs : FileSystem) (pass : Pass) (root : Path) (files : ProjectFiles) (path : Path) :
    ProjectFiles :=
  match taken? fs pass root path with
  | none => files
  | some (family, file) => files.add family (unixPath path.text) file

theorem files_examine :
    (examine pass found absolute relative content).files =
      match recordOf? pass absolute content with
      | none => found.files
      | some (family, file) => found.files.add family absolute file := by
  unfold examine recordOf?
  cases Source.classify absolute content with
  | none => rfl
  | some classified =>
      obtain ⟨language, family⟩ := classified
      simp only
      split
      · rfl
      · split
        · rename_i present
          simp [ProjectFiles.add, present]
        · rfl

theorem files_visit (quiet : pass.journal = none) {after : Found}
    (visited : visit fs pass (rootLength root) found path = .ok after) :
    after.files = take fs pass root found.files path := by
  rw [visit] at visited
  rw [take, taken?]
  simp only [quiet, Journal.after_none] at visited ⊢
  generalize unixPath path.text = absolute at visited ⊢
  generalize relativePath (rootLength root) absolute = relative at visited ⊢
  cases excluded : pass.exclusions.excludes relative absolute with
  | true =>
      simp only [excluded, if_true, Except.ok.injEq] at visited ⊢
      rw [← visited]
  | false =>
      cases candidate : Source.isCandidate absolute with
      | false =>
          simp only [excluded, candidate, Bool.not_false, if_true, Bool.false_eq_true, if_false,
            Except.ok.injEq] at visited ⊢
          rw [← visited]
      | true =>
          simp only [excluded, candidate, Bool.not_true, Bool.false_eq_true, if_false] at visited ⊢
          cases read : fs.read path with
          | error e => simp [read] at visited
          | ok bytes =>
              simp only [read, Except.ok.injEq] at visited ⊢
              rw [← visited]
              rw [files_examine]

theorem files_visitAll (quiet : pass.journal = none)
    (unstopped : (visitAll fs pass (rootLength root) found paths).2 = none) :
    (visitAll fs pass (rootLength root) found paths).1.files =
      paths.foldl (take fs pass root) found.files := by
  induction paths generalizing found with
  | nil => rfl
  | cons path paths induction =>
      rw [visitAll] at unstopped ⊢
      cases visited : visit fs pass (rootLength root) found path with
      | error e => simp [visited] at unstopped
      | ok after =>
          simp only [visited] at unstopped ⊢
          rw [induction unstopped, List.foldl_cons, files_visit quiet visited]

/-- A pass that is not stopped has read every candidate that it does not leave out. -/
theorem exists_read_of_visitAll (quiet : pass.journal = none)
    (unstopped : (visitAll fs pass (rootLength root) found paths).2 = none) (member : path ∈ paths)
    (included : pass.exclusions.excludes (relativePath (rootLength root) (unixPath path.text))
      (unixPath path.text) = false)
    (candidate : Source.isCandidate (unixPath path.text) = true) :
    ∃ bytes, fs.read path = .ok bytes := by
  induction paths generalizing found with
  | nil => simp at member
  | cons first paths induction =>
      rw [visitAll] at unstopped
      cases visited : visit fs pass (rootLength root) found first with
      | error e => simp [visited] at unstopped
      | ok after =>
          simp only [visited] at unstopped
          rcases List.mem_cons.mp member with rfl | member
          · simp only [visit, included, candidate, quiet, Journal.after_none, Bool.not_true,
              Bool.false_eq_true, if_false] at visited
            cases read : fs.read path with
            | error e => simp [read] at visited
            | ok bytes => exact ⟨bytes, rfl⟩
          · exact induction unstopped member

/-! ## Which files a pass takes -/

/-- A pass over a root takes the file at a path. -/
structure Takes (fs : FileSystem) (pass : Pass) (root path : Path) : Prop where
  included : pass.exclusions.excludes (relativePath (rootLength root) (unixPath path.text))
    (unixPath path.text) = false
  candidate : Source.isCandidate (unixPath path.text) = true
  accepted : ∃ bytes, fs.read path = .ok bytes ∧
    (Source.family (unixPath path.text) = .script →
      pass.accepts (unixPath path.text) (contentOf bytes) = true)

/-- A pass over a root takes a file below it under a key. -/
def Finds (fs : FileSystem) (pass : Pass) (root : Path) (key : String) : Prop :=
  ∃ path, fs.Under root path ∧ Takes fs pass root path ∧ key = unixPath path.text

/-- What a pass finds does not depend on the role that it gives. -/
@[simp]
theorem finds_role_iff {role : Role} :
    Finds fs { pass with role } root key ↔ Finds fs pass root key := by
  constructor
  · rintro ⟨path, under, ⟨included, candidate, accepted⟩, same⟩
    exact ⟨path, under, ⟨included, candidate, accepted⟩, same⟩
  · rintro ⟨path, under, ⟨included, candidate, accepted⟩, same⟩
    exact ⟨path, under, ⟨included, candidate, accepted⟩, same⟩

theorem isSome_recordOf?_iff :
    (recordOf? pass absolute content).isSome = true ↔
      Source.isCandidate absolute = true ∧
        (Source.family absolute = .script → pass.accepts absolute content = true) := by
  rw [← Source.isSome_language?_iff_isCandidate absolute content]
  unfold recordOf? Source.classify
  cases Source.language? absolute content with
  | none => simp
  | some language =>
      simp only [Option.map_some, Option.isSome_some, true_and]
      cases Source.family absolute <;> cases pass.accepts absolute content <;> simp

theorem isSome_taken?_iff : (taken? fs pass root path).isSome = true ↔ Takes fs pass root path := by
  constructor
  · intro taken
    rw [taken?] at taken
    cases excluded : pass.exclusions.excludes (relativePath (rootLength root) (unixPath path.text))
        (unixPath path.text) with
    | true => simp only [excluded, if_true, Option.isSome_none, Bool.false_eq_true] at taken
    | false =>
        cases candidate : Source.isCandidate (unixPath path.text) with
        | false =>
            simp only [excluded, candidate, Bool.not_false, if_true, Bool.false_eq_true, if_false,
              Option.isSome_none] at taken
        | true =>
            simp only [excluded, candidate, Bool.not_true, Bool.false_eq_true, if_false] at taken
            cases read : fs.read path with
            | error e => simp only [read, Option.isSome_none, Bool.false_eq_true] at taken
            | ok bytes =>
                simp only [read] at taken
                exact ⟨excluded, candidate, bytes, read, (isSome_recordOf?_iff.mp taken).2⟩
  · rintro ⟨included, candidate, bytes, read, accepted⟩
    have recorded := isSome_recordOf?_iff.mpr ⟨candidate, accepted⟩
    simp only [taken?, included, candidate, read, Bool.not_true, Bool.false_eq_true, if_false]
    exact recorded

theorem holds_take_iff :
    (take fs pass root files path).Holds key ↔
      files.Holds key ∨ Takes fs pass root path ∧ key = unixPath path.text := by
  rw [← isSome_taken?_iff]
  rw [take]
  cases taken? fs pass root path with
  | none => simp
  | some taken =>
      rw [ProjectFiles.holds_add_iff]
      simp

theorem holds_foldl_take_iff :
    (paths.foldl (take fs pass root) files).Holds key ↔
      files.Holds key ∨ ∃ path ∈ paths, Takes fs pass root path ∧ key = unixPath path.text := by
  induction paths generalizing files with
  | nil => simp
  | cons path paths induction =>
      rw [List.foldl_cons, induction, holds_take_iff]
      simp [or_assoc]

/-! ## What a pass gives -/

/-- A pass that is not stopped visits every file of a walk through its whole directory. -/
theorem scan_of_unfailed (unfailed : (scan fs pass root files).failure = none) :
    (fs.walk root).stop = none ∧
      (visitAll fs pass (rootLength root) { files } (fs.walk root).files).2 = none ∧
      (scan fs pass root files).files =
        (visitAll fs pass (rootLength root) { files } (fs.walk root).files).1.files := by
  rw [scan] at unfailed ⊢
  simp only at unfailed ⊢
  split at unfailed
  · contradiction
  · rename_i settled
    rw [Option.or_eq_none_iff, Option.map_eq_none_iff] at settled
    obtain ⟨visited, walked⟩ := settled
    exact ⟨walked, visited, rfl⟩

/-- A pass whose root is in no unknown home directory is one from the root of the file system. -/
theorem discover_of_expandHome {expanded : Path} (expands : fs.expandHome root = .ok expanded) :
    discover fs pass root files = discoverAt fs pass (fs.fromRoot root) files := by
  rw [discover, expands, fromRoot, expands]
  rfl

theorem exists_expandHome_of_discover (unfailed : (discover fs pass root files).failure = none) :
    ∃ expanded, fs.expandHome root = .ok expanded := by
  cases expands : fs.expandHome root with
  | ok expanded => exact ⟨expanded, rfl⟩
  | error e => simp [discover, expands] at unfailed

theorem discover_eq_scan (unfailed : (discover fs pass root files).failure = none) :
    discover fs pass root files = scan fs pass (fs.fromRoot root) files := by
  obtain ⟨expanded, expands⟩ := exists_expandHome_of_discover unfailed
  rw [discover_of_expandHome expands, discoverAt] at unfailed ⊢
  simp only at unfailed ⊢
  split at unfailed
  all_goals first | contradiction | simp_all

/-- A pass that is not stopped has been over a directory. -/
theorem isDirectory_of_discover (unfailed : (discover fs pass root files).failure = none) :
    fs.isDirectory (fs.fromRoot root) = .ok true := by
  obtain ⟨expanded, expands⟩ := exists_expandHome_of_discover unfailed
  rw [discover_of_expandHome expands, discoverAt] at unfailed
  simp only at unfailed
  split at unfailed
  all_goals first | contradiction | assumption

/-- A pass that is not stopped adds what it finds to what was found before. -/
theorem holds_discover_iff (tree : fs.IsTree) (quiet : pass.journal = none)
    (unfailed : (discover fs pass root files).failure = none) :
    (discover fs pass root files).files.Holds key ↔
      files.Holds key ∨ Finds fs pass (fs.fromRoot root) key := by
  have same := discover_eq_scan unfailed
  rw [same] at unfailed ⊢
  obtain ⟨unstopped, visited, gathered⟩ := scan_of_unfailed unfailed
  rw [gathered, files_visitAll quiet visited, holds_foldl_take_iff]
  simp only [mem_files_walk_iff tree unstopped, Finds]

/-- A pass that is not stopped takes each candidate below its root that it neither leaves out nor
refuses. -/
theorem takes_of_unfailed (tree : fs.IsTree) (quiet : pass.journal = none)
    (unfailed : (discover fs pass root files).failure = none)
    (under : fs.Under (fs.fromRoot root) path)
    (included : pass.exclusions.excludes
      (relativePath (rootLength (fs.fromRoot root)) (unixPath path.text)) (unixPath path.text) =
        false)
    (candidate : Source.isCandidate (unixPath path.text) = true)
    (accepted : ∀ bytes, fs.read path = .ok bytes →
      Source.family (unixPath path.text) = .script →
        pass.accepts (unixPath path.text) (contentOf bytes) = true) :
    Takes fs pass (fs.fromRoot root) path := by
  have same := discover_eq_scan unfailed
  rw [same] at unfailed
  obtain ⟨unstopped, visited, -⟩ := scan_of_unfailed unfailed
  have met := (mem_files_walk_iff tree unstopped).mpr under
  obtain ⟨bytes, read⟩ := exists_read_of_visitAll quiet visited met included candidate
  exact ⟨included, candidate, bytes, read, accepted bytes read⟩

end Discovery

end Baseline
