import Baseline.Proofs.Text.Order
import Baseline.Proofs.Text.Pieces
import Baseline.Results
import Mathlib.Data.List.Basic
import Mathlib.Data.List.DropRight
import Mathlib.Data.List.Perm.Basic

/-!
# What a listing tells

A listing tells of every finding in which language and by which rule it was made, in which file and
on which line, and it tells of nothing else. The name under which a rule is listed gives the
language and the rule back. So there are as many lines listed for a rule as the summary counts.
-/

namespace Baseline

namespace Listing

variable {name : String} {found group : List Entry} {entry : String × FileLines}

/-! ## Findings -/

/-- A finding as a listing tells of it. -/
structure Finding where
  language : String
  rule : String
  key : String
  line : Int

/-- The language and the rule that a name stands for: what is before its first dash, and what is
after it. -/
def headingOf (name : String) : String × String :=
  (String.ofList (name.toList.takeWhile (· != '-')),
    String.ofList ((name.toList.dropWhile (· != '-')).drop 1))

/-- The findings that a listing tells of, one for each line. -/
def told (listing : Listing) : List Finding :=
  listing.flatMap fun (name, files) => files.flatMap fun (key, lines) => lines.map fun line =>
    ⟨(headingOf name).1, (headingOf name).2, key, line⟩

/-- The names below a directory on the way to a place, if the way leads through the directory.
Slashes at the end of a directory do not count. -/
def namesBelow? (directory path : String) : Option (List (List Char)) :=
  let names := Text.pieces '/' (directory.toList.rdropWhile (· == '/'))
  (names.isPrefixOf? (Text.pieces '/' path.toList)).filter (· ≠ [])

/-- The way to a place from a directory that it lies in, and the whole way to any other place. -/
def placeFrom (directory path : String) : String :=
  (namesBelow? directory path).elim path fun names => String.ofList (Text.joined ['/'] names)

/-- The findings of a report on a project that lies in a directory. A file without a language counts
as JavaScript, the key of a file is the project, a colon and the way to it from the directory, and a
finding without a line is on line zero. -/
def reported (project base : String) (report : Report) : List Finding :=
  report.entries.flatMap fun (path, file) => file.issues.map fun issue =>
    { language := (file.language.getD .javascript).displayName
      rule := issue.ruleId
      key := project ++ ":" ++ placeFrom base path
      line := issue.line.getD 0 }

/-- A way leads through a directory exactly if it is spelled by that, a slash, and the names below.
-/
theorem namesBelow?_eq_some_iff {directory path : String} {names : List (List Char)} :
    namesBelow? directory path = some names ↔
      ∃ rest, path.toList = directory.toList.rdropWhile (· == '/') ++ '/' :: rest ∧
        names = Text.pieces '/' rest := by
  rw [namesBelow?, Option.filter_eq_some_iff, List.isPrefixOf?_eq_some_iff_append_eq,
    decide_eq_true_iff]
  constructor
  · rintro ⟨split, some⟩
    have spelled : path.toList =
        directory.toList.rdropWhile (· == '/') ++ '/' :: Text.joined ['/'] names := by
      rw [← Text.joined_pieces '/' path.toList, ← split,
        Text.joined_append (Text.pieces_ne_nil _ _) some, Text.joined_pieces]
    refine ⟨_, spelled, ?_⟩
    rw [spelled, Text.pieces_append_cons] at split
    exact List.append_cancel_left split
  · rintro ⟨rest, spelled, rfl⟩
    rw [spelled, Text.pieces_append_cons]
    exact ⟨rfl, Text.pieces_ne_nil _ _⟩

/-- A place is listed under the way to it. -/
theorem relativeTo_eq_placeFrom (directory path : String) :
    relativeTo directory path = placeFrom directory path := by
  rw [relativeTo, placeFrom]
  cases below : namesBelow? directory path with
  | some names =>
      obtain ⟨rest, spelled, rfl⟩ := namesBelow?_eq_some_iff.mp below
      have starts : (directory.toList.rdropWhile (· == '/') ++ ['/']).isPrefixOf path.toList =
          true := by
        rw [List.isPrefixOf_iff_prefix, spelled]
        exact ⟨rest, by simp⟩
      rw [← List.rdropWhile, if_pos starts, spelled]
      simp [Text.joined_pieces]
  | none =>
      refine if_neg fun starts => ?_
      obtain ⟨rest, split⟩ := List.isPrefixOf_iff_prefix.mp starts
      rw [List.append_assoc, List.singleton_append] at split
      have some := namesBelow?_eq_some_iff.mpr ⟨rest, split.symm, rfl⟩
      cases below.symm.trans some

/-- The finding of which an entry tells. -/
def Entry.finding (entry : Entry) : Finding :=
  ⟨(headingOf entry.name).1, (headingOf entry.name).2, entry.key, entry.line⟩

/-- A rule may have a dash, since no name of a language has one. -/
theorem headingOf_ruleName (language : Option Language) (rule : String) :
    headingOf (ruleName language rule) = ((language.getD .javascript).displayName, rule) := by
  have spelled : (ruleName language rule).toList =
      (language.getD .javascript).displayName.toList ++ '-' :: rule.toList := by
    simp [ruleName]
  have dashless : ∀ c ∈ (language.getD .javascript).displayName.toList, (c != '-') = true := by
    cases language.getD .javascript <;> simp [Language.displayName]
  rw [headingOf, spelled, List.takeWhile_append_of_pos dashless,
    List.dropWhile_append_of_pos dashless]
  simp

theorem map_finding_entries (project base : String) (report : Report) :
    (entries project base report).map Entry.finding = reported project base report := by
  simp [entries, fileEntries, fileKey, relativeTo_eq_placeFrom, reported, List.map_flatMap,
    Function.comp_def, Entry.finding, headingOf_ruleName]

/-! ## Groups -/

/-- Items are what their groups hold together, if every item has a key among different ones. -/
theorem flatMap_filter_perm {α : Type} (key : α → String) {keys : List String}
    (distinct : keys.Nodup) {items : List α} (known : ∀ item ∈ items, key item ∈ keys) :
    (keys.flatMap fun k => items.filter (key · == k)).Perm items := by
  induction keys generalizing items with
  | nil =>
      obtain rfl : items = [] := List.eq_nil_iff_forall_not_mem.mpr fun item member =>
        List.not_mem_nil (known item member)
      exact .nil
  | cons first keys induction =>
      obtain ⟨fresh, distinct⟩ := List.nodup_cons.mp distinct
      let others := items.filter fun item => !(key item == first)
      have apart : (keys.flatMap fun k => items.filter (key · == k)) =
          keys.flatMap fun k => others.filter (key · == k) := by
        refine List.flatMap_congr fun k member => ?_
        have differs : k ≠ first := fun same => fresh (same ▸ member)
        rw [List.filter_filter]
        refine List.filter_congr fun item _ => ?_
        by_cases same : key item = k <;> simp [same, differs]
      have rest : (keys.flatMap fun k => others.filter (key · == k)).Perm others := by
        refine induction distinct fun item member => ?_
        obtain ⟨listed, differs⟩ := List.mem_filter.mp member
        exact (List.mem_cons.mp (known item listed)).resolve_left (by simpa using differs)
      rw [List.flatMap_cons, apart]
      exact (rest.append_left _).trans (List.filter_append_perm _ items)

theorem sortedLines_perm (lines : List Int) : (sortedLines lines).Perm lines :=
  List.mergeSort_perm _ _

theorem pairwise_sortedLines (lines : List Int) : (sortedLines lines).Pairwise (· ≤ ·) := by
  have total : ∀ a b : Int, (decide (a ≤ b) || decide (b ≤ a)) = true := by
    intro a b
    simpa using Int.le_total a b
  have transitive : ∀ a b c : Int, decide (a ≤ b) = true → decide (b ≤ c) = true →
      decide (a ≤ c) = true := by
    intro a b c first second
    rw [decide_eq_true_eq] at first second ⊢
    exact Int.le_trans first second
  exact (List.pairwise_mergeSort transitive total lines).imp of_decide_eq_true

/-- The lines of files tell of the findings that were grouped by file. -/
theorem told_fileLines (named : ∀ entry ∈ group, entry.name = name) :
    (told [(name, fileLines group)]).Perm (group.map Entry.finding) := by
  let keys := Text.sortedDistinct (group.map Entry.key)
  have listed : told [(name, fileLines group)] = keys.flatMap fun key =>
      (sortedLines ((group.filter (·.key == key)).map Entry.line)).map fun line =>
        ⟨(headingOf name).1, (headingOf name).2, key, line⟩ := by
    simp [told, fileLines, keys, List.flatMap_map]
  have each : ∀ key ∈ keys,
      ((sortedLines ((group.filter (·.key == key)).map Entry.line)).map fun line =>
        (⟨(headingOf name).1, (headingOf name).2, key, line⟩ : Finding)).Perm
      ((group.filter (·.key == key)).map Entry.finding) := by
    intro key _
    refine ((sortedLines_perm _).map _).trans (.of_eq ?_)
    rw [List.map_map]
    refine List.map_congr_left fun entry member => ?_
    obtain ⟨grouped, same⟩ := List.mem_filter.mp member
    simp [Entry.finding, named entry grouped, eq_of_beq same]
  have whole : (keys.flatMap fun key => group.filter (·.key == key)).Perm group :=
    flatMap_filter_perm Entry.key (Text.nodup_sortedDistinct _) fun entry member =>
      Text.mem_sortedDistinct.mpr (List.mem_map_of_mem member)
  rw [listed]
  refine (List.Perm.flatMap (.refl keys) each).trans ?_
  rw [← List.map_flatMap]
  exact whole.map _

/-- A listing tells of each entry from which it is made, and of nothing else. -/
theorem told_ofEntries (found : List Entry) :
    (told (ofEntries found)).Perm (found.map Entry.finding) := by
  let names := Text.sortedDistinct (found.map Entry.name)
  have listed : told (ofEntries found) = names.flatMap fun name =>
      told [(name, fileLines (found.filter (·.name == name)))] := by
    simp [told, ofEntries, names, List.flatMap_map]
  have each : ∀ name ∈ names, (told [(name, fileLines (found.filter (·.name == name)))]).Perm
      ((found.filter (·.name == name)).map Entry.finding) := fun name _ =>
    told_fileLines fun entry member => eq_of_beq (List.mem_filter.mp member).2
  have whole : (names.flatMap fun name => found.filter (·.name == name)).Perm found :=
    flatMap_filter_perm Entry.name (Text.nodup_sortedDistinct _) fun entry member =>
      Text.mem_sortedDistinct.mpr (List.mem_map_of_mem member)
  rw [listed]
  refine (List.Perm.flatMap (.refl names) each).trans ?_
  rw [← List.map_flatMap]
  exact whole.map _

/-! ## Order -/

/-- The names of a listing ascend, as do the keys under each name, and the lines of each key; no
name is without keys, and no key without lines. -/
structure IsOrderly (listing : Listing) : Prop where
  names : (listing.map Prod.fst).Pairwise (· < ·)
  files : ∀ entry ∈ listing, entry.2 ≠ [] ∧ (entry.2.map Prod.fst).Pairwise (· < ·)
  lines : ∀ entry ∈ listing, ∀ file ∈ entry.2, file.2 ≠ [] ∧ file.2.Pairwise (· ≤ ·)

theorem map_fst_ofEntries (found : List Entry) :
    (ofEntries found).map Prod.fst = Text.sortedDistinct (found.map Entry.name) := by
  simp [ofEntries, Function.comp_def]

theorem map_fst_fileLines (group : List Entry) :
    (fileLines group).map Prod.fst = Text.sortedDistinct (group.map Entry.key) := by
  simp [fileLines, Function.comp_def]

/-- Under each name stand the files of at least one entry. -/
theorem exists_of_mem_ofEntries (member : entry ∈ ofEntries found) :
    ∃ group ≠ [], entry.2 = fileLines group := by
  obtain ⟨name, listed, rfl⟩ := List.mem_map.mp member
  obtain ⟨first, made, rfl⟩ := List.mem_map.mp (Text.mem_sortedDistinct.mp listed)
  refine ⟨found.filter (·.name == first.name), ?_, rfl⟩
  exact List.ne_nil_of_mem (List.mem_filter.mpr ⟨made, beq_self_eq_true first.name⟩)

theorem isOrderly_ofEntries (found : List Entry) : IsOrderly (ofEntries found) := by
  constructor
  case names =>
    rw [map_fst_ofEntries]
    exact Text.pairwise_sortedDistinct _
  case files =>
    intro entry member
    obtain ⟨group, group_ne, files⟩ := exists_of_mem_ofEntries member
    obtain ⟨first, grouped⟩ := List.exists_mem_of_ne_nil group group_ne
    rw [files, map_fst_fileLines]
    refine ⟨?_, Text.pairwise_sortedDistinct _⟩
    intro none
    have listed : first.key ∈ Text.sortedDistinct (group.map Entry.key) :=
      Text.mem_sortedDistinct.mpr (List.mem_map_of_mem grouped)
    rw [← map_fst_fileLines, none] at listed
    contradiction
  case lines =>
    intro entry member file listed
    obtain ⟨group, -, files⟩ := exists_of_mem_ofEntries member
    rw [files] at listed
    obtain ⟨key, known, rfl⟩ := List.mem_map.mp listed
    obtain ⟨first, grouped, rfl⟩ := List.mem_map.mp (Text.mem_sortedDistinct.mp known)
    refine ⟨?_, pairwise_sortedLines _⟩
    have line : first.line ∈ (group.filter (·.key == first.key)).map Entry.line :=
      List.mem_map_of_mem (List.mem_filter.mpr ⟨grouped, beq_self_eq_true _⟩)
    exact List.ne_nil_of_mem ((sortedLines_perm _).mem_iff.mpr line)

theorem mem_told_iff {listing : Listing} {finding : Finding} :
    finding ∈ told listing ↔ ∃ entry ∈ listing, ∃ file ∈ entry.2, ∃ line ∈ file.2,
      finding = ⟨(headingOf entry.1).1, (headingOf entry.1).2, file.1, line⟩ := by
  simp [told, eq_comm]

/-- A rule that has a name in an orderly listing has a line in it. -/
theorem IsOrderly.exists_told_iff {listing : Listing} (orderly : IsOrderly listing)
    (rule : String) :
    (∃ finding ∈ told listing, finding.rule = rule) ↔
      ∃ entry ∈ listing, (headingOf entry.1).2 = rule := by
  constructor
  · rintro ⟨finding, member, rfl⟩
    obtain ⟨entry, listed, _, -, _, -, rfl⟩ := mem_told_iff.mp member
    exact ⟨entry, listed, rfl⟩
  · rintro ⟨entry, listed, rfl⟩
    obtain ⟨file, filed⟩ := List.exists_mem_of_ne_nil _ (orderly.files entry listed).1
    obtain ⟨line, lined⟩ := List.exists_mem_of_ne_nil _ (orderly.lines entry listed file filed).1
    exact ⟨_, mem_told_iff.mpr ⟨entry, listed, file, filed, line, lined, rfl⟩, rfl⟩

end Listing

namespace Report

open Listing

/-! ## Summaries -/

/-- The number of findings of a rule. -/
def countOf (rule : String) (findings : List Finding) : Nat := findings.countP (·.rule == rule)

/-- A summary counts the findings of each rule that has any. -/
theorem lookup_summary (project base rule : String) (report : Report) :
    report.summary.lookup rule =
      if ∃ finding ∈ reported project base report, finding.rule = rule then
        some (countOf rule (reported project base report))
      else none := by
  let rules := report.values.flatMap fun file => file.issues.map (·.ruleId)
  have all : (reported project base report).map Finding.rule = rules := by
    simp [rules, reported, Keyed.values, List.map_flatMap, List.flatMap_map, Function.comp_def]
  have count : countOf rule (reported project base report) = rules.count rule := by
    rw [← all, List.count_eq_countP, List.countP_map]
    rfl
  have known : (∃ finding ∈ reported project base report, finding.rule = rule) ↔ rule ∈ rules := by
    rw [← all, List.mem_map]
  rw [count]
  simp only [known]
  change ((Text.sortedDistinct rules).map fun rule => (rule, rules.count rule)).lookup rule = _
  split
  · rename_i member
    exact List.lookup_graph _ (Text.mem_sortedDistinct.mpr member)
  · rename_i absent
    rw [List.lookup_eq_none_iff]
    intro entry listed
    obtain ⟨other, member, rfl⟩ := List.mem_map.mp listed
    simp only [bne_iff_ne, ne_eq]
    rintro rfl
    exact absent (Text.mem_sortedDistinct.mp member)

end Report

namespace Results

open Listing

/-- The listing of a report is in order and tells of the findings of the report, each as often as it
was reported, and of nothing else. A rule is in the summary exactly if it is listed, with as many
findings as there are lines listed for it. -/
theorem listingOf_tells_reported (fs : FileSystem) (project : String) (directory : Path)
    (report : Report) :
    let listing := listingOf fs project directory report
    IsOrderly listing ∧
      (told listing).Perm (reported project (unixPath (fs.absolute directory).text) report) ∧
      ∀ rule, report.summary.lookup rule =
        if ∃ entry ∈ listing, (headingOf entry.1).2 = rule then
          some ((told listing).countP (·.rule == rule))
        else none := by
  intro listing
  have orderly : IsOrderly listing := isOrderly_ofEntries _
  have tells : (told listing).Perm
      (reported project (unixPath (fs.absolute directory).text) report) := by
    rw [← map_finding_entries]
    exact told_ofEntries _
  refine ⟨orderly, tells, fun rule => ?_⟩
  rw [Report.lookup_summary project (unixPath (fs.absolute directory).text), Report.countOf,
    ← tells.countP_eq]
  simp only [← orderly.exists_told_iff rule, tells.mem_iff]

end Results

end Baseline
