import Baseline.Proofs.Discovery.Invariant
import Baseline.Proofs.Discovery.Pass
import Baseline.Proofs.FileSystem.Alike
import Baseline.Proofs.FileSystem.Itinerary

/-!
# What a pass adds

A pass that is not stopped adds to every group, in the order of its walk, a record for each file that
it takes into the family of the group. A file whose key is there already adds nothing. The order in
which the entries of the file system are stored does not matter.
-/

namespace Baseline

namespace FileSystem

variable {fs other : FileSystem} {directory path : Path} {address : Address}

/-- A walk meets files in the order of the stations at which they are. -/
theorem files_walkOver_sublist (stations : List Station) :
    ((fs.walkOver stations).files.map Station.entry).Sublist stations := by
  induction stations with
  | nil => exact .slnil
  | cons station stations induction =>
      cases station with
      | directory path =>
          rw [walkOver]
          cases fs.list path with
          | error fault => exact List.nil_sublist _
          | ok names => exact induction.cons _
      | entry path =>
          rw [walkOver]
          cases fs.linkError? path with
          | some e => exact List.nil_sublist _
          | none =>
              cases fs.leadsToFile path with
              | false => exact induction.cons _
              | true => exact induction.cons_cons _

end FileSystem

/-- A file whose key is not there yet is added at the end of its group. -/
theorem ProjectFiles.entries_add_self (files : ProjectFiles) (family : Family) (path : String)
    (file : SourceFile) :
    ((files.add family path file).group family).entries =
      (files.group family).entries ++
        if path ∈ (files.group family).keys then [] else [(path, file)] := by
  unfold add
  simp only [Keyed.contains_eq_decide, decide_eq_true_eq]
  split
  · rw [List.append_nil]
  · rename_i fresh
    rw [group_setGroup, if_pos rfl, Keyed.entries_put_of_not_mem file fresh]

namespace Discovery

open FileSystem

variable {fs other : FileSystem} {pass : Pass} {root path : Path} {found : Found}
  {files : ProjectFiles} {paths : List Path} {family : Family} {file : SourceFile} {length : Nat}

/-! ## Passes over file systems that look alike -/

/-- Two file systems give the same when a pass reads the file at a path. -/
def ReadsSame (fs other : FileSystem) (pass : Pass) (length : Nat) (path : Path) : Prop :=
  pass.exclusions.excludes (relativePath length (unixPath path.text)) (unixPath path.text) = false →
    Source.isCandidate (unixPath path.text) = true → other.read path = fs.read path

theorem visit_of_readsSame (quiet : pass.journal = none) (same : ReadsSame fs other pass length path) :
    visit other pass length found path = visit fs pass length found path := by
  unfold visit
  simp only [quiet, Journal.after_none]
  split
  · rfl
  · split
    · rfl
    · rename_i included candidate
      rw [same (by simpa using included) (by simpa using candidate)]

theorem visitAll_of_readsSame (quiet : pass.journal = none)
    (same : ∀ path ∈ paths, ReadsSame fs other pass length path) :
    visitAll other pass length found paths = visitAll fs pass length found paths := by
  induction paths generalizing found with
  | nil => rfl
  | cons path paths induction =>
      obtain ⟨here, others⟩ := List.forall_mem_cons.mp same
      rw [visitAll, visitAll, visit_of_readsSame quiet here]
      cases visit fs pass length found path with
      | error e => rfl
      | ok after => exact induction others

/-- A pass sees of a file system only how it looks and what is in the candidates that the pass does
not leave out. -/
theorem discover_of_alike (alike : fs.Alike other) (quiet : pass.journal = none)
    (same : ∀ path ∈ (fs.walk (fs.fromRoot root)).files,
      ReadsSame fs other pass (rootLength (fs.fromRoot root)) path) :
    discover other pass root files = discover fs pass root files := by
  have home : other.expandHome root = fs.expandHome root := expandHome_of_homes alike.homes root
  have scanned :
      scan other pass (fs.fromRoot root) files = scan fs pass (fs.fromRoot root) files := by
    unfold scan
    simp only [walk_of_alike alike, visitAll_of_readsSame quiet same]
  cases expands : fs.expandHome root with
  | error e => simp only [discover, home, expands]
  | ok expanded =>
      rw [discover_of_expandHome expands, discover_of_expandHome (home.trans expands),
        fromRoot_of_homes alike.current alike.homes, discoverAt, discoverAt,
        pathExists_of_alike alike, isDirectory_of_alike alike, scanned]

/-! ## What is added -/

/-- The entries whose keys are not among those seen, the first with each key. -/
def firstOfEach (seen : List String) : List (String × SourceFile) → List (String × SourceFile)
  | [] => []
  | entry :: rest =>
    if entry.1 ∈ seen then firstOfEach seen rest
    else entry :: firstOfEach (seen ++ [entry.1]) rest

/-- A pass over a root takes the file at a path into a family, with this record. -/
structure Records (fs : FileSystem) (pass : Pass) (root : Path) (family : Family) (path : Path)
    (file : SourceFile) : Prop where
  included : pass.exclusions.excludes (relativePath (rootLength root) (unixPath path.text))
    (unixPath path.text) = false
  candidate : Source.isCandidate (unixPath path.text) = true
  content : ∃ bytes, fs.read path = .ok bytes ∧ file.content = contentOf bytes
  classified : Source.classify (unixPath path.text) file.content = some (file.language, family)
  accepted : family = .script → pass.accepts (unixPath path.text) file.content = true
  role : file.role = pass.role

theorem recordOf?_eq_some_iff {absolute content : String} :
    recordOf? pass absolute content = some (family, file) ↔
      file.content = content ∧ file.role = pass.role ∧
        Source.classify absolute content = some (file.language, family) ∧
        (family = .script → pass.accepts absolute content = true) := by
  unfold recordOf?
  cases classified : Source.classify absolute content with
  | none => simp
  | some found =>
      obtain ⟨language, own⟩ := found
      obtain ⟨held, role, tongue⟩ := file
      simp only
      split
      · rename_i refused
        simp only [Bool.and_eq_true, beq_iff_eq, Bool.not_eq_true'] at refused
        obtain ⟨rfl, refused⟩ := refused
        simp only [reduceCtorEq, Option.some.injEq, Prod.mk.injEq, refused, Bool.false_eq_true,
          imp_false, false_iff, not_and]
        rintro - - ⟨-, rfl⟩ script
        exact script rfl
      · rename_i kept
        simp only [Bool.and_eq_true, beq_iff_eq, Bool.not_eq_true', not_and, Bool.not_eq_false]
          at kept
        simp only [Option.some.injEq, Prod.mk.injEq, SourceFile.mk.injEq]
        constructor
        · rintro ⟨rfl, rfl, rfl, rfl⟩
          exact ⟨rfl, rfl, ⟨rfl, rfl⟩, kept⟩
        · rintro ⟨rfl, rfl, ⟨rfl, rfl⟩, -⟩
          exact ⟨rfl, rfl, rfl, rfl⟩

theorem taken?_eq_some_iff :
    taken? fs pass root path = some (family, file) ↔ Records fs pass root family path file := by
  constructor
  · intro taken
    obtain ⟨included, candidate, bytes, read, -⟩ :=
      isSome_taken?_iff.mp (Option.isSome_iff_exists.mpr ⟨_, taken⟩)
    simp only [taken?, included, candidate, read, Bool.not_true, Bool.false_eq_true, if_false,
      recordOf?_eq_some_iff] at taken
    obtain ⟨content, role, classified, accepted⟩ := taken
    rw [← content] at classified accepted
    exact ⟨included, candidate, ⟨bytes, read, content⟩, classified, accepted, role⟩
  · rintro ⟨included, candidate, ⟨bytes, read, content⟩, classified, accepted, role⟩
    simp only [taken?, included, candidate, read, Bool.not_true, Bool.false_eq_true, if_false,
      recordOf?_eq_some_iff]
    rw [← content]
    exact ⟨rfl, role, classified, accepted⟩

/-- The record that a pass over a root makes of the file at a path, if it takes it into a family. -/
def record? (fs : FileSystem) (pass : Pass) (root : Path) (family : Family) (path : Path) :
    Option SourceFile :=
  (taken? fs pass root path).bind fun (own, file) => if own = family then some file else none

theorem record?_eq_some_iff :
    record? fs pass root family path = some file ↔ Records fs pass root family path file := by
  rw [← taken?_eq_some_iff, record?]
  cases taken? fs pass root path with
  | none => simp
  | some taken =>
      obtain ⟨own, stored⟩ := taken
      simp

/-- What a pass adds to a group for the files at paths. -/
def additions (fs : FileSystem) (pass : Pass) (root : Path) (family : Family) (paths : List Path) :
    List (String × SourceFile) :=
  paths.filterMap fun path => (record? fs pass root family path).map (unixPath path.text, ·)

theorem firstOfEach_append (seen : List String) (entries later : List (String × SourceFile)) :
    firstOfEach seen (entries ++ later) =
      firstOfEach seen entries ++
        firstOfEach (seen ++ (firstOfEach seen entries).map Prod.fst) later := by
  induction entries generalizing seen with
  | nil => simp [firstOfEach]
  | cons entry entries induction =>
      rw [List.cons_append, firstOfEach, firstOfEach]
      split
      · exact induction seen
      · rw [induction]
        simp

/-- Renaming keys one to one does not change which of them are new. -/
theorem firstOfEach_map {rename : String → String} (injective : Function.Injective rename)
    (seen : List String) (entries : List (String × SourceFile)) :
    firstOfEach (seen.map rename) (entries.map fun (key, file) => (rename key, file)) =
      (firstOfEach seen entries).map fun (key, file) => (rename key, file) := by
  induction entries generalizing seen with
  | nil => rfl
  | cons entry entries induction =>
      have renamed : rename entry.1 ∈ seen.map rename ↔ entry.1 ∈ seen :=
        List.mem_map_of_injective injective
      rw [List.map_cons, firstOfEach, firstOfEach]
      simp only [renamed]
      split
      · exact induction seen
      · rw [List.map_cons, ← induction, List.map_append]
        rfl

theorem entries_take (family : Family) :
    ((take fs pass root files path).group family).entries =
      (files.group family).entries ++
        firstOfEach (files.group family).keys (additions fs pass root family [path]) := by
  cases taken : taken? fs pass root path with
  | none => simp [take, additions, record?, taken, firstOfEach]
  | some found =>
      obtain ⟨own, file⟩ := found
      rw [take, taken]
      rcases eq_or_ne family own with rfl | other
      · have recorded : additions fs pass root family [path] = [(unixPath path.text, file)] := by
          simp [additions, record?, taken]
        rw [recorded, firstOfEach, ProjectFiles.entries_add_self]
        rfl
      · have unrecorded : additions fs pass root family [path] = [] := by
          simp [additions, record?, taken, other.symm]
        rcases files.entries_add own family (unixPath path.text) file with same | ⟨rfl, -⟩
        · rw [unrecorded, firstOfEach, List.append_nil, same]
        · exact (other rfl).elim

/-- The files at paths add the first record of each new key, in their order. -/
theorem entries_foldl_take (family : Family) :
    ((paths.foldl (take fs pass root) files).group family).entries =
      (files.group family).entries ++
        firstOfEach (files.group family).keys (additions fs pass root family paths) := by
  induction paths generalizing files with
  | nil => simp [additions, firstOfEach]
  | cons path paths induction =>
      -- The keys of the first file count as seen for the others.
      have parted : additions fs pass root family (path :: paths) =
          additions fs pass root family [path] ++ additions fs pass root family paths :=
        List.filterMap_append (l := [path]) ..
      rw [List.foldl_cons, induction, parted, firstOfEach_append, Keyed.keys, entries_take,
        List.map_append, List.append_assoc]
      rfl

/-- A pass with the standard exclusions, which accepts every script. -/
def plainPass : Pass := ⟨.forProject none none, .main, fun _ _ => true, none⟩

end Discovery

end Baseline
