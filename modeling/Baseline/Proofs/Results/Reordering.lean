import Baseline.Proofs.Report.Listing
import Baseline.Proofs.Results.RoundTrip

/-!
# The order of a report does not matter

Names, keys and lines are put in order wherever they are grouped, so findings that come in another
order are grouped into the same listing. It follows that the same files with the same texts are
written, and that the same is summed up.
-/

namespace Baseline

/-- Reports of a file that differ in the order of its findings alone. -/
structure FileReport.Reorders (first second : FileReport) : Prop where
  issues : first.issues.Perm second.issues
  parsingError : first.parsingError = second.parsingError
  language : first.language = second.language

/-- Reports that differ in the order of the files, and for each file in that of its findings,
alone. -/
def Report.Reorders (first second : Report) : Prop :=
  ∃ middle, first.entries.Perm middle ∧
    List.Forall₂ (fun one other => one.1 = other.1 ∧ one.2.Reorders other.2) middle second.entries

theorem Text.sortedDistinct_eq_of_perm {texts others : List String} (perm : texts.Perm others) :
    sortedDistinct texts = sortedDistinct others := by
  rw [sortedDistinct, sorted_eq_of_perm perm, sortedDistinct]

/-- What is gathered from the files of a report comes in another order if the report does. -/
theorem Report.Reorders.perm_flatMap {α : Type} {first second : Report}
    (reorders : first.Reorders second) (gather : String → FileReport → List α)
    (each : ∀ path one other, one.Reorders other →
      (gather path one).Perm (gather path other)) :
    (first.entries.flatMap fun (path, file) => gather path file).Perm
      (second.entries.flatMap fun (path, file) => gather path file) := by
  obtain ⟨middle, perm, alike⟩ := reorders
  refine (perm.flatMap_right _).trans ?_
  clear perm
  generalize second.entries = entries at alike
  induction alike with
  | nil => exact .nil
  | @cons one other _ _ same _ induction =>
      obtain ⟨path, file⟩ := one
      obtain ⟨rfl, same⟩ := same
      exact (each _ _ _ same).append induction

/-- The findings of each rule are as many in whatever order they come. -/
theorem Report.Reorders.summary_eq {first second : Report} (reorders : first.Reorders second) :
    first.summary = second.summary := by
  have perm := reorders.perm_flatMap (fun _ file => file.issues.map (·.ruleId))
    fun _ _ _ same => same.issues.map _
  have rules (report : Report) : (report.values.flatMap fun file => file.issues.map (·.ruleId)) =
      report.entries.flatMap fun (_, file) => file.issues.map (·.ruleId) := by
    rw [Keyed.values, List.flatMap_map]
  rw [summary, summary, rules, rules]
  simp only [Text.sortedDistinct_eq_of_perm perm, perm.count_eq]

namespace Listing

variable {found others : List Entry} {first second : Report}

theorem sortedLines_eq_of_perm {lines others : List Int} (perm : lines.Perm others) :
    sortedLines lines = sortedLines others :=
  (((sortedLines_perm lines).trans perm).trans (sortedLines_perm others).symm).eq_of_pairwise
    (fun _ _ _ _ => Int.le_antisymm) (pairwise_sortedLines lines) (pairwise_sortedLines others)

theorem fileLines_eq_of_perm (perm : found.Perm others) : fileLines found = fileLines others := by
  rw [fileLines, fileLines, Text.sortedDistinct_eq_of_perm (perm.map Entry.key)]
  refine List.map_congr_left fun key _ => ?_
  rw [sortedLines_eq_of_perm ((perm.filter _).map Entry.line)]

theorem ofEntries_eq_of_perm (perm : found.Perm others) : ofEntries found = ofEntries others := by
  rw [ofEntries, ofEntries, Text.sortedDistinct_eq_of_perm (perm.map Entry.name)]
  refine List.map_congr_left fun name _ => ?_
  rw [fileLines_eq_of_perm (perm.filter _)]

theorem ofReport_eq_of_reorders (reorders : first.Reorders second) (project base : String) :
    ofReport project base first = ofReport project base second := by
  refine ofEntries_eq_of_perm (reorders.perm_flatMap (fileEntries project base) ?_)
  intro path one other same
  rw [fileEntries, fileEntries, same.language]
  exact same.issues.map _

end Listing

namespace Results

open FileSystem

variable {fs : FileSystem} {target : Path} {listing : Listing} {paths : List Path}

/-! ## What is written -/

/-- The names and texts of the files of a listing. -/
def contentsOf (listing : Listing) : List (String × String) :=
  listing.map fun (name, files) => (name ++ ".json", fileText files)

/-- The file system with a text written under a name below a directory. -/
def store (target : Path) (fs : FileSystem) (file : String × String) :
    Except FileError FileSystem :=
  fs.write (target.below file.1) (Text.Utf8.encode file.2.toList)

/-- Texts are written under their names, one after the other, below a directory that has been
prepared for them. -/
structure Puts (fs : FileSystem) (target : Path) (contents : List (String × String))
    (written : Written) : Prop where
  paths : written.paths = contents.map fun file => target.below file.1
  stored : contents.foldlM (store target) (prepared fs target) = .ok written.fs

theorem writeFiles_unfailed
    (unfailed : (writeFiles target ⟨fs, paths, none⟩ listing).failure = none) :
    (writeFiles target ⟨fs, paths, none⟩ listing).paths =
        paths ++ (contentsOf listing).map (fun file => target.below file.1) ∧
      (contentsOf listing).foldlM (store target) fs =
        .ok (writeFiles target ⟨fs, paths, none⟩ listing).fs := by
  induction listing generalizing fs paths with
  | nil => exact ⟨by simp [contentsOf, writeFiles], rfl⟩
  | cons entry listing induction =>
      obtain ⟨name, files⟩ := entry
      rw [writeFiles] at unfailed ⊢
      cases filed : writeFile fs target name files with
      | error e => simp [filed] at unfailed
      | ok next =>
          simp only [filed] at unfailed ⊢
          obtain ⟨listed, stored⟩ := induction unfailed
          have first : store target fs (name ++ ".json", fileText files) = .ok next :=
            (writeFile_eq_ok_iff.mp filed).2
          constructor
          · rw [listed]
            simp [contentsOf, filePath]
          · rw [contentsOf, List.map_cons, List.foldlM_cons, first]
            exact stored

theorem puts_replace (returned : (replace fs target listing).failure = none) :
    Puts fs target (contentsOf listing) (replace fs target listing) := by
  rcases clears : clear fs target with ⟨cleared, _ | e⟩
  swap
  · rw [replace_of_stopped clears] at returned
    cases returned
  rcases replace_cases clears listing with
    ⟨-, result⟩ | ⟨_, _, -, result⟩ | ⟨-, ready, making, result⟩
  · rw [result] at returned
    cases returned
  · rw [result] at returned
    cases returned
  have ends : prepared fs target = ready := by
    rw [prepared, clears, making]
  rw [result] at returned ⊢
  obtain ⟨listed, stored⟩ := writeFiles_unfailed returned
  exact ⟨listed, ends ▸ stored⟩

/-- Reports that differ in the order of files and findings alone have the same listing, down to its
order, and the same summary. Writing either has the same outcome. Where they are written over
different file systems, the same texts are written under the same names in the same order, if both
writes return. -/
theorem write_eq_of_reorders {first second : Report} (reorders : first.Reorders second)
    (project : String) (directory : Path) :
    (∀ fs, listingOf fs project directory first = listingOf fs project directory second) ∧
      first.summary = second.summary ∧
      (∀ fs results,
        write fs results project directory first = write fs results project directory second) ∧
      ∀ fs other results others, fs.absolute directory = other.absolute directory →
        (write fs results project directory first).failure = none →
        (write other others project directory second).failure = none →
        ∃ contents,
          Puts fs (projectDirectory results project) contents
            (write fs results project directory first) ∧
          Puts other (projectDirectory others project) contents
            (write other others project directory second) := by
  have listed (fs : FileSystem) :
      listingOf fs project directory first = listingOf fs project directory second :=
    Listing.ofReport_eq_of_reorders reorders _ _
  refine ⟨listed, reorders.summary_eq, fun fs results => ?_, ?_⟩
  · rw [write, listed, write]
  · intro fs other results others place returned returnedOther
    have same :
        listingOf fs project directory first = listingOf other project directory second := by
      rw [listed, listingOf, place, listingOf]
    refine ⟨_, puts_replace returned, ?_⟩
    rw [same]
    exact puts_replace returnedOther

/-- A finding of a rule on a line. -/
def plainIssue (rule : String) (line : Int) : Diagnostic :=
  ⟨rule, some line, 0, .text "", none, none, [], []⟩

/-- A report of two files. -/
def earlierReport : Report :=
  ⟨[("/w/p/a.js", ⟨[plainIssue "S1" 3, plainIssue "S1" 2], none, none⟩),
    ("/w/p/b.js", ⟨[], none, some .javascript⟩)], by decide⟩

/-- The files and the findings of the other report, the last first. -/
def laterReport : Report :=
  ⟨[("/w/p/b.js", ⟨[], none, some .javascript⟩),
    ("/w/p/a.js", ⟨[plainIssue "S1" 2, plainIssue "S1" 3], none, none⟩)], by decide⟩

theorem listingOf_earlierReport :
    listingOf staleResults "p" (Path.parse "p") earlierReport =
      [("javascript-S1", [("p:a.js", [2, 3])])] := by
  have base : unixPath (staleResults.absolute (Path.parse "p")).text = "/w/p" := by decide +kernel
  have found : Listing.entries "p" "/w/p" earlierReport =
      [⟨"javascript-S1", "p:a.js", 3⟩, ⟨"javascript-S1", "p:a.js", 2⟩] := by decide +kernel
  have once (text : String) : Text.sortedDistinct [text, text] = [text] := by
    rw [Text.sortedDistinct, Text.sorted_eq (.refl _) (by simp)]
    simp [List.eraseDups_cons]
  have lines : Listing.sortedLines [3, 2] = [2, 3] := by
    rw [Listing.sortedLines_eq_of_perm (.swap 2 3 [])]
    exact List.mergeSort_of_pairwise (by decide)
  rw [listingOf, base, Listing.ofReport, found]
  simp [Listing.ofEntries, Listing.fileLines, once, lines]

theorem write_eq_of_reorders_laterReport :
    let results := Path.parse "/w/actual"
    let others := Path.parse "/w/baseline"
    let directory := Path.parse "p"
    earlierReport.Reorders laterReport ∧
      listingOf staleResults "p" directory earlierReport =
        listingOf staleResults "p" directory laterReport ∧
      earlierReport.summary = laterReport.summary ∧
      (write staleResults results "p" directory earlierReport).failure = none ∧
      (write staleResults others "p" directory laterReport).failure = none ∧
      ∃ contents,
        Puts staleResults (projectDirectory results "p") contents
          (write staleResults results "p" directory earlierReport) ∧
        Puts staleResults (projectDirectory others "p") contents
          (write staleResults others "p" directory laterReport) := by
  intro results others directory
  have reorders : earlierReport.Reorders laterReport :=
    ⟨_, .swap _ _ [], .cons ⟨rfl, .refl _, rfl, rfl⟩ (.cons ⟨rfl, .swap _ _ [], rfl, rfl⟩ .nil)⟩
  obtain ⟨listed, summed, -, apart⟩ := write_eq_of_reorders reorders "p" directory
  have returned : (write staleResults results "p" directory earlierReport).failure = none := by
    rw [write, listingOf_earlierReport]
    decide +kernel
  have returnedOther : (write staleResults others "p" directory laterReport).failure = none := by
    rw [write, ← listed, listingOf_earlierReport]
    decide +kernel
  exact ⟨reorders, listed _, summed, returned, returnedOther,
    apart _ _ results others rfl returned returnedOther⟩

end Results

end Baseline
