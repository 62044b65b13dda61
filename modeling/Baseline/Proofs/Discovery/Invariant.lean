import Baseline.Discovery
import Baseline.Proofs.Keyed

/-!
# What every pass keeps

A pass changes the files it has only by adding one under the family that `Source.classify` gives,
and says nothing but debug messages. So a property of files that such an addition keeps is kept by
every pass and every collection, one that is stopped included.
-/

namespace Baseline

namespace Source

theorem family_of_classify {path content : String} {language : Language} {family : Family}
    (classified : classify path content = some (language, family)) : family = Source.family path := by
  unfold classify at classified
  cases found : language? path content with
  | none => simp [found] at classified
  | some language => simp_all

end Source

namespace Discovery

variable {fs : FileSystem} {pass : Pass} {length : Nat} {found : Found} {files : ProjectFiles}
  {path root project : Path} {keeps : ProjectFiles → Prop}

/-- Adding a file under the family that it is classified into keeps a property of files. -/
def KeptByAdding (keeps : ProjectFiles → Prop) : Prop :=
  ∀ ⦃files absolute content role language family⦄,
    Source.classify absolute content = some (language, family) → keeps files →
      keeps (files.add family absolute ⟨content, role, language⟩)

/-- Files have a property, and what was said about finding them are debug messages. -/
structure Quietly (keeps : ProjectFiles → Prop) (files : ProjectFiles) (logs : List LogRecord) :
    Prop where
  kept : keeps files
  quiet : ∀ record ∈ logs, record.level = .debug

theorem Quietly.append {logs later : List LogRecord} (quietly : Quietly keeps files logs)
    (also : ∀ record ∈ later, record.level = .debug) : Quietly keeps files (logs ++ later) :=
  ⟨quietly.kept, List.forall_mem_append.mpr ⟨quietly.quiet, also⟩⟩

theorem quietly_examine (adding : KeptByAdding keeps) {absolute relative content : String}
    (before : Quietly keeps found.files found.logs) :
    Quietly keeps (examine pass found absolute relative content).files
      (examine pass found absolute relative content).logs := by
  unfold examine
  split
  · exact before
  next language family classified =>
    split
    · exact before.append (by simp)
    · split
      · exact before
      · exact ⟨adding classified before.kept, before.quiet⟩

theorem quietly_visit (adding : KeptByAdding keeps) {after : Found}
    (before : Quietly keeps found.files found.logs)
    (visited : visit fs pass length found path = .ok after) :
    Quietly keeps after.files after.logs := by
  unfold visit at visited
  simp only at visited
  split at visited
  · cases visited
    exact before
  · split at visited
    · cases visited
      exact before
    · split at visited
      · cases visited
      · rw [← Except.ok.inj visited]
        exact quietly_examine adding before

theorem quietly_visitAll (adding : KeptByAdding keeps) {paths : List Path}
    (before : Quietly keeps found.files found.logs) :
    Quietly keeps (visitAll fs pass length found paths).1.files
      (visitAll fs pass length found paths).1.logs := by
  induction paths generalizing found with
  | nil => exact before
  | cons path paths induction =>
      unfold visitAll
      cases visited : visit fs pass length found path with
      | error e => exact before
      | ok after => exact induction (quietly_visit adding before visited)

theorem quietly_scan (adding : KeptByAdding keeps) (before : keeps files) :
    Quietly keeps (scan fs pass root files).files (scan fs pass root files).logs := by
  have visited : Quietly keeps
      (visitAll fs pass (rootLength root) { files } (fs.walk root).files).1.files
      (visitAll fs pass (rootLength root) { files } (fs.walk root).files).1.logs :=
    quietly_visitAll adding ⟨before, by simp⟩
  unfold scan
  simp only
  split
  · exact visited
  · exact visited.append (by simp [summary])

theorem quietly_discover (adding : KeptByAdding keeps) (before : keeps files) :
    Quietly keeps (discover fs pass root files).files (discover fs pass root files).logs := by
  have unchanged : Quietly keeps files [] := ⟨before, by simp⟩
  unfold discover
  split
  · exact unchanged
  · unfold discoverAt
    simp only
    split
    case h_5 => exact quietly_scan adding before
    all_goals exact unchanged

theorem quietly_collectTests (adding : KeptByAdding keeps) {directories : List String}
    {outcome : Outcome} (before : Quietly keeps outcome.files outcome.logs) :
    Quietly keeps (collectTests fs pass project outcome directories).files
      (collectTests fs pass project outcome directories).logs := by
  induction directories generalizing outcome with
  | nil => exact before
  | cons directory directories induction =>
      unfold collectTests
      split
      · exact before
      · let nextOutcome := discover (Journal.after pass.journal fs outcome.logs) pass
          (project.below directory) outcome.files
        have next : Quietly keeps nextOutcome.files nextOutcome.logs :=
          quietly_discover adding before.kept
        exact induction ⟨next.kept, (before.append next.quiet).quiet⟩

/-- Every collection keeps what adding a file keeps, and says nothing but debug messages. -/
theorem quietly_collect (adding : KeptByAdding keeps) {spec : ProjectSpec} (nothing : keeps ∅) :
    Quietly keeps (collect fs pass spec project).files (collect fs pass spec project).logs :=
  quietly_collectTests adding (quietly_discover adding nothing)

end Discovery

namespace ProjectFiles

variable {files : ProjectFiles} {family other : Family} {path : String}

/-- Every file is in the group of its family, which its path decides. -/
def IsFiled (files : ProjectFiles) : Prop :=
  ∀ family, ∀ path ∈ (files.group family).keys, Source.family path = family

theorem isFiled_empty : (∅ : ProjectFiles).IsFiled := by
  intro family path member
  cases family <;> cases member

/-- A file is added at the end of its group or not at all. -/
theorem entries_add (files : ProjectFiles) (family other : Family) (path : String)
    (file : SourceFile) :
    ((files.add family path file).group other).entries = (files.group other).entries ∨
      other = family ∧
        ((files.add family path file).group other).entries =
          (files.group other).entries ++ [(path, file)] := by
  unfold add
  simp only
  split
  · exact .inl rfl
  · rename_i absent
    rw [group_setGroup]
    split
    · rename_i same
      subst same
      have fresh : path ∉ (files.group other).keys := by rwa [← Keyed.contains_iff]
      exact .inr ⟨rfl, Keyed.entries_put_of_not_mem file fresh⟩
    · exact .inl rfl

theorem mem_keys_add {file : SourceFile} {key : String}
    (member : key ∈ ((files.add family path file).group other).keys) :
    key ∈ (files.group other).keys ∨ other = family ∧ key = path := by
  rcases files.entries_add family other path file with same | ⟨rfl, grown⟩
  · rw [Keyed.keys, same] at member
    exact .inl member
  · rw [Keyed.keys, grown, List.map_append, List.mem_append] at member
    rcases member with member | member
    · exact .inl member
    · exact .inr ⟨rfl, by simpa using member⟩

theorem IsFiled.add (filed : files.IsFiled) (file : SourceFile) :
    (files.add (Source.family path) path file).IsFiled := by
  intro other key member
  rcases mem_keys_add member with member | ⟨same, here⟩
  · exact filed other key member
  · rw [same, here]

theorem keptByAdding_isFiled : Discovery.KeptByAdding IsFiled := by
  intro files path content role language family classified filed
  rw [Source.family_of_classify classified]
  exact filed.add _

/-- Files of different families have different paths. -/
theorem IsFiled.disjoint (filed : files.IsFiled) (family other : Family) (different : family ≠ other) :
    ∀ path ∈ (files.group family).keys, path ∉ (files.group other).keys := by
  intro path here there
  exact different ((filed family path here).symm.trans (filed other path there))

/-- All files stand in the order of their families. -/
theorem IsFiled.entries_all (filed : files.IsFiled) :
    files.all.entries = files.script.entries ++ files.markup.entries ++ files.data.entries := by
  have script : ((∅ : FileGroup).putAll files.script).entries = files.script.entries := by
    rw [Keyed.entries_putAll (by simp)]
    rfl
  have markup : (((∅ : FileGroup).putAll files.script).putAll files.markup).entries =
      files.script.entries ++ files.markup.entries := by
    rw [Keyed.entries_putAll, script]
    intro path member
    rw [Keyed.keys, script]
    exact filed.disjoint .markup .script (by decide) path member
  unfold all
  rw [Keyed.entries_putAll, markup]
  intro path member
  rw [Keyed.keys, markup, List.map_append, List.mem_append, not_or]
  exact ⟨filed.disjoint .data .script (by decide) path member,
    filed.disjoint .data .markup (by decide) path member⟩

end ProjectFiles

end Baseline
