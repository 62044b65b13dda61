import Baseline.Proofs.Discovery.Invariant

/-!
# Files that grow pass by pass

Passes follow each other, each on the files that the ones before have found, while the files on disk
change in between. Whatever a pass meets, and wherever it is stopped or broken off, it files what it
adds by extension and adds it at the end of its group.
-/

namespace Baseline

namespace Source

/-- The family of the source files with an extension. -/
def familyOf? (extension : String) : Option Family :=
  if markupExtensions.contains extension then some .markup
  else if dataExtensions.contains extension then some .data
  else if plainExtensions.contains extension || typedExtensions.contains extension then some .script
  else none

/-- The family of a candidate is that of its extension, and no other file has one. -/
theorem familyOf?_eq (path : String) :
    familyOf? (extension path) = if isCandidate path then some (family path) else none := by
  unfold familyOf? isCandidate isPlain family isMarkup isData
  -- Which extensions there are does not matter here.
  generalize markupExtensions.contains (extension path) = markup
  generalize dataExtensions.contains (extension path) = data
  generalize plainExtensions.contains (extension path) = plain
  generalize typedExtensions.contains (extension path) = typed
  cases markup <;> cases data <;> cases plain <;> cases typed <;> rfl

theorem family_of_familyOf? {path : String} {found : Family}
    (filed : familyOf? (extension path) = some found) : family path = found := by
  rw [familyOf?_eq] at filed
  split at filed
  · exact Option.some.inj filed
  · cases filed

/-- What is classified has a candidate extension, and the family that the extension decides. -/
theorem familyOf?_of_classify {path content : String} {language : Language} {found : Family}
    (classified : classify path content = some (language, found)) :
    familyOf? (extension path) = some found := by
  have candidate : isCandidate path = true := by
    rw [← isSome_language?_iff_isCandidate path content]
    unfold classify at classified
    cases told : language? path content with
    | none => simp [told] at classified
    | some language => rfl
  rw [familyOf?_eq, if_pos candidate, family_of_classify classified]

end Source

namespace ProjectFiles

variable {files later last : ProjectFiles} {family other : Family} {path key : String}
  {file : SourceFile}

/-- Every group of the later files starts with the entries of the earlier one, in their order. -/
def Extends (files later : ProjectFiles) : Prop :=
  ∀ family, (files.group family).entries <+: (later.group family).entries

theorem Extends.refl (files : ProjectFiles) : files.Extends files :=
  fun _ => List.prefix_rfl

theorem Extends.trans (first : files.Extends later) (second : later.Extends last) :
    files.Extends last :=
  fun family => (first family).trans (second family)

theorem extends_add (files : ProjectFiles) (family : Family) (path : String) (file : SourceFile) :
    files.Extends (files.add family path file) := by
  intro other
  rcases files.entries_add family other path file with same | ⟨-, grown⟩
  · exact ⟨[], by rw [List.append_nil, same]⟩
  · exact ⟨_, grown.symm⟩

theorem keptByAdding_extends (files : ProjectFiles) : Discovery.KeptByAdding files.Extends := by
  intro later path content role language family classified grown
  exact grown.trans (later.extends_add family path _)

/-- Every file is in the group that its extension decides. -/
def IsSorted (files : ProjectFiles) : Prop :=
  ∀ family, ∀ path ∈ (files.group family).keys,
    Source.familyOf? (Source.extension path) = some family

theorem isSorted_empty : (∅ : ProjectFiles).IsSorted := by
  intro family path member
  cases family <;> cases member

theorem keptByAdding_isSorted : Discovery.KeptByAdding IsSorted := by
  intro files path content role language family classified sorted other key member
  rcases mem_keys_add member with member | ⟨rfl, rfl⟩
  · exact sorted other key member
  · exact Source.familyOf?_of_classify classified

theorem IsSorted.isFiled (sorted : files.IsSorted) : files.IsFiled :=
  fun family path member => Source.family_of_familyOf? (sorted family path member)

/-- Files that are in the groups of their families are counted once each. -/
theorem IsFiled.size_eq (filed : files.IsFiled) : files.size = files.all.size := by
  simp only [size, Keyed.size, filed.entries_all, List.length_append]

end ProjectFiles

namespace Discovery

variable {keeps : ProjectFiles → Prop} {files : ProjectFiles}

/-- A pass over a root, with the files on disk as they are then. An acceptance of scripts may break
the pass off after some files of its walk. -/
structure Call where
  fs : FileSystem
  pass : Pass
  root : Path
  brokenAfter : Option Nat := none

/-- The files after a pass on top of the files before it, one that is stopped or broken off
included. -/
def Call.extend (call : Call) (files : ProjectFiles) : ProjectFiles :=
  match call.brokenAfter, call.fs.expandHome call.root with
  | some count, .ok expanded =>
    let root := call.fs.absolute expanded
    let visited := (call.fs.walk root).files.take count
    (visitAll call.fs call.pass (rootLength root) { files } visited).1.files
  | _, _ => (discover call.fs call.pass call.root files).files

/-- The files after passes one after the other, from none on. -/
def foundBy (calls : List Call) : ProjectFiles :=
  calls.foldl (fun files call => call.extend files) ∅

theorem kept_extend (adding : KeptByAdding keeps) (call : Call) (before : keeps files) :
    keeps (call.extend files) := by
  unfold Call.extend
  split
  · exact (quietly_visitAll adding ⟨before, by simp⟩).kept
  · exact (quietly_discover adding before).kept

theorem kept_foldl_extend (adding : KeptByAdding keeps) (calls : List Call) (before : keeps files) :
    keeps (calls.foldl (fun files call => call.extend files) files) := by
  induction calls generalizing files with
  | nil => exact before
  | cons call calls induction => exact induction (kept_extend adding call before)

/-- What holds of the files of a project at any time: no two groups share a path, a file is in the
group that its extension alone decides, and the files counted are all the files there are. -/
structure IsOrderly (files : ProjectFiles) : Prop where
  disjoint : ∀ family other, family ≠ other →
    ∀ path ∈ (files.group family).keys, path ∉ (files.group other).keys
  sorted : files.IsSorted
  size : files.size = files.all.size

/-- After any passes the files are in order, and any further passes leave every entry, with its
record, where it is in its group. -/
theorem foundBy_orderly_extends (calls more : List Call) :
    IsOrderly (foundBy calls) ∧ (foundBy calls).Extends (foundBy (calls ++ more)) := by
  have sorted : (foundBy calls).IsSorted :=
    kept_foldl_extend ProjectFiles.keptByAdding_isSorted calls ProjectFiles.isSorted_empty
  have filed := sorted.isFiled
  have grown : (foundBy calls).Extends
      (more.foldl (fun files call => call.extend files) (foundBy calls)) :=
    kept_foldl_extend (ProjectFiles.keptByAdding_extends _) more (.refl _)
  refine ⟨⟨filed.disjoint, sorted, filed.size_eq⟩, ?_⟩
  unfold foundBy at grown ⊢
  rw [List.foldl_append]
  exact grown

end Discovery

end Baseline
