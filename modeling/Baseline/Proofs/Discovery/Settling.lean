import Baseline.Proofs.Discovery.Collection
import Baseline.Proofs.FileSystem.Settling
import Baseline.Proofs.Text.Pieces

/-!
# Results are no sources

A file with the name of a result has no candidate extension. So a pass finds the same files after
results were written, wherever they lie.
-/

namespace Baseline

open FileSystem

variable {name : String} {path : Path}

/-! ## Names of results -/

theorem Path.suffix_cases (named : isResultName path.name = true) :
    path.suffix = ".json" ∨ path.suffix = "" := by
  obtain ⟨start, spelled⟩ := isResultName_iff.mp named
  rw [suffix, spelled]
  rcases eq_or_ne start [] with rfl | start_ne
  · exact .inr (by decide)
  · rw [stemAndSuffix_append start_ne (by simp) (by decide)]
    exact .inl rfl

theorem Source.extension_cases {start : List Char} {s : String}
    (spelled : s.toList = start ++ ['.', 'j', 's', 'o', 'n']) :
    extension s = ".json" ∨ extension s = "" := by
  have unix : (unixPath s).toList = Text.replaceChar '\\' '/' start ++ ['.', 'j', 's', 'o', 'n'] := by
    rw [unixPath, String.toList_ofList, spelled]
    simp [Text.replaceChar]
  obtain ⟨before, last, parts⟩ :=
    Path.exists_parts_parse unix (by decide) (show 'j' ∈ _ by simp) (by decide)
  have named : isResultName (Path.parse (unixPath s)).name = true := by
    rw [Path.name, parts, isResultName_iff]
    exact ⟨last, by simp⟩
  rw [extension]
  rcases Path.suffix_cases named with suffix | suffix
  · rw [suffix]
    exact .inl (by decide +kernel)
  · rw [suffix]
    exact .inr (by decide +kernel)

/-- A file with the name of a result can be no source file. -/
theorem Source.isCandidate_of_result (named : isResultName path.name = true) :
    isCandidate (unixPath path.text) = false := by
  obtain ⟨start, spelled⟩ := isResultName_iff.mp named
  obtain ⟨before, parts⟩ : ∃ before, path.parts = before ++ [path.name] := by
    rcases List.eq_nil_or_concat path.parts with none | ⟨before, last, parts⟩
    · rw [Path.name, none] at spelled
      simp at spelled
    · refine ⟨before, ?_⟩
      rw [Path.name, parts]
      simp
  obtain ⟨more, text⟩ := @Path.exists_text_eq path.root before path.name
  rw [← parts, spelled, ← List.append_assoc] at text
  have unix : (unixPath path.text).toList =
      Text.replaceChar '\\' '/' (more ++ start) ++ ['.', 'j', 's', 'o', 'n'] := by
    rw [unixPath, String.toList_ofList]
    simp only [text, Text.replaceChar, List.map_append]
    rfl
  unfold isCandidate isPlain isMarkup isData
  rcases extension_cases unix with extension | extension
  · rw [extension]
    decide
  · rw [extension]
    decide

namespace Discovery

variable {fs after : FileSystem} {pass : Pass} {root : Path} {address : Address}
  {files : ProjectFiles} {found : Found} {paths : List Path} {project : Path}
  {directories : List String} {outcome other : Outcome}

/-! ## What a pass takes -/

theorem take_of_result (named : isResultName path.name = true) :
    take fs pass root files path = files := by
  have none : taken? fs pass root path = none := by
    rw [taken?]
    simp only [Source.isCandidate_of_result named, Bool.not_false, if_true, ite_self]
  rw [take, none]

theorem take_congr (same : after.read path = fs.read path) :
    take after pass root files path = take fs pass root files path := by
  rw [take, take, taken?, taken?, same]

/-- Files with the names of results make no difference. -/
theorem foldl_take_filter :
    (paths.filter fun path => !isResultName path.name).foldl (take fs pass root) files =
      paths.foldl (take fs pass root) files := by
  induction paths generalizing files with
  | nil => rfl
  | cons path paths induction =>
      cases named : isResultName path.name with
      | true =>
          rw [List.filter_cons_of_neg (by simp [named]), List.foldl_cons, take_of_result named]
          exact induction
      | false =>
          rw [List.filter_cons_of_pos (by simp [named]), List.foldl_cons, List.foldl_cons]
          exact induction

/-- A pass is not stopped if every candidate that it does not leave out can be read. -/
theorem visitAll_unstopped (quiet : pass.journal = none)
    (reads : ∀ path ∈ paths, pass.exclusions.excludes
        (relativePath (rootLength root) (unixPath path.text)) (unixPath path.text) = false →
      Source.isCandidate (unixPath path.text) = true → ∃ bytes, fs.read path = .ok bytes) :
    (visitAll fs pass (rootLength root) found paths).2 = none := by
  induction paths generalizing found with
  | nil => rfl
  | cons path paths induction =>
      obtain ⟨here, others⟩ := List.forall_mem_cons.mp reads
      have visited : ∃ next, visit fs pass (rootLength root) found path = .ok next := by
        rw [visit]
        simp only [quiet, Journal.after_none]
        split
        · exact ⟨_, rfl⟩
        · rename_i included
          split
          · exact ⟨_, rfl⟩
          · rename_i candidate
            obtain ⟨bytes, read⟩ := here (by simpa using included) (by simpa using candidate)
            rw [read]
            exact ⟨_, rfl⟩
      obtain ⟨next, visited⟩ := visited
      rw [visitAll, visited]
      exact induction others

/-! ## Passes after results were written -/

theorem scan_settled (tree : fs.IsTree) (settles : fs.Settles after)
    (before : fs.Reaches root address) (quiet : pass.journal = none)
    (unfailed : (scan fs pass root files).failure = none) :
    (scan after pass root files).failure = none ∧
      (scan after pass root files).files = (scan fs pass root files).files := by
  obtain ⟨unstopped, visited, gathered⟩ := scan_of_unfailed unfailed
  obtain ⟨unstoppedAfter, same⟩ := walk_settled settles before unstopped
  rw [Walk.others, Walk.others] at same
  have kept {path : Path} (member : path ∈ (after.walk root).files)
      (source : isResultName path.name = false) :
      path ∈ (fs.walk root).files ∧ after.read path = fs.read path := by
    have filtered : path ∈ (after.walk root).files.filter fun path => !isResultName path.name :=
      List.mem_filter.mpr ⟨member, by simp [source]⟩
    rw [same, List.mem_filter] at filtered
    have under := (mem_files_walk_iff tree unstopped).mp filtered.1
    exact ⟨filtered.1, under.read_eq settles before source⟩
  have visitedAfter : (visitAll after pass (rootLength root) { files } (after.walk root).files).2 =
      none := by
    apply visitAll_unstopped quiet
    intro path member included candidate
    cases named : isResultName path.name with
    | true =>
        rw [Source.isCandidate_of_result named] at candidate
        contradiction
    | false =>
        obtain ⟨met, read⟩ := kept member named
        rw [read]
        exact exists_read_of_visitAll quiet visited met included candidate
  have unfailedAfter : (scan after pass root files).failure = none := by
    rw [scan]
    simp only [visitedAfter, unstoppedAfter, Option.map_none, Option.or_none]
  refine ⟨unfailedAfter, ?_⟩
  rw [(scan_of_unfailed unfailedAfter).2.2, gathered, files_visitAll quiet visitedAfter,
    files_visitAll quiet visited, ← foldl_take_filter, ← @foldl_take_filter fs, same]
  apply List.foldl_ext
  intro files path member
  obtain ⟨met, source⟩ := List.mem_filter.mp member
  have under := (mem_files_walk_iff tree unstopped).mp met
  exact take_congr (under.read_eq settles before (by simpa using source))

/-- A pass that is not stopped finds the same files after results were written. -/
theorem discover_settled (tree : fs.IsTree) (plain : fs.IsPlain) (settles : fs.Settles after)
    (quiet : pass.journal = none) (unfailed : (discover fs pass root files).failure = none) :
    (discover after pass root files).failure = none ∧
      (discover after pass root files).files = (discover fs pass root files).files := by
  obtain ⟨expanded, expands⟩ := exists_expandHome_of_discover unfailed
  have there := isDirectory_of_discover unfailed
  have scanned := discover_eq_scan unfailed
  rw [scanned] at unfailed ⊢
  obtain ⟨whole, address, leads, room⟩ := isDirectory_eq_ok_true_iff.mp there
  have before : fs.Reaches (fs.fromRoot root) address := ⟨plain, leads, room⟩
  have now := before.settle settles
  obtain ⟨locked, stands⟩ := hasDirectory_iff.mp now.room
  have present : after.pathExists (fs.fromRoot root) = .ok true :=
    pathExists_eq_ok_true_iff.mpr ⟨whole, address, now.leads, by simp [stands]⟩
  have directory : after.isDirectory (fs.fromRoot root) = .ok true :=
    isDirectory_eq_ok_true_iff.mpr ⟨whole, address, now.leads, now.room⟩
  have scannedAfter :
      discover after pass root files = scan after pass (fs.fromRoot root) files := by
    rw [discover_of_expandHome ((expandHome_of_homes settles.homes root).trans expands), discoverAt,
      fromRoot_of_homes settles.current settles.homes]
    simp only [present, directory]
  rw [scannedAfter]
  exact scan_settled tree settles before quiet unfailed

theorem collectTests_settled (tree : fs.IsTree) (plain : fs.IsPlain) (settles : fs.Settles after)
    (quiet : pass.journal = none) (same : other.files = outcome.files)
    (going : other.failure = none)
    (unfailed : (collectTests fs pass project outcome directories).failure = none) :
    (collectTests after pass project other directories).failure = none ∧
      (collectTests after pass project other directories).files =
        (collectTests fs pass project outcome directories).files := by
  induction directories generalizing outcome other with
  | nil => exact ⟨going, same⟩
  | cons directory directories induction =>
      have begun := unfailed_of_collectTests unfailed
      rw [collectTests] at unfailed ⊢
      rw [collectTests]
      simp only [begun, going, quiet, Journal.after_none] at unfailed ⊢
      have passed := unfailed_of_collectTests unfailed
      dsimp only at passed
      obtain ⟨goingOn, found⟩ := discover_settled tree plain settles quiet passed
      rw [same]
      exact induction found goingOn unfailed

/-- After results were written the same files of a project are found. -/
theorem collect_settled {spec : ProjectSpec} (tree : fs.IsTree) (plain : fs.IsPlain)
    (settles : fs.Settles after) (quiet : pass.journal = none)
    (unfailed : (collect fs pass spec project).failure = none) :
    (collect after pass spec project).failure = none ∧
      (collect after pass spec project).files = (collect fs pass spec project).files := by
  have main : ({ pass with role := .main } : Pass).journal = none := quiet
  have tests : ({ pass with role := .test } : Pass).journal = none := quiet
  obtain ⟨going, same⟩ := discover_settled tree plain settles main (unfailed_of_collectTests unfailed)
  exact collectTests_settled tree plain settles tests same going unfailed

end Discovery

end Baseline
