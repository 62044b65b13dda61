import Baseline.Proofs.Report.Merge
import Baseline.Report.Cells
import Mathlib.Data.List.Forall2
import Mathlib.Data.List.Nodup

/-!
# What a merge gives and what it leaves alone

Reports are merged unless two of them share a path; then the first path that an earlier report holds
is named. A merge in place gives the same, and writes to no cell that was there before.
-/

namespace Baseline

namespace Cells

variable {cells later last : Cells} {files : Option FileGroup} {found : Option SourceFile}
  {target cell source : Nat} {path : String} {entries : List (String × Nat)} {merged : Report}
  {sources : List Nat}

/-! ## Cells that are added and written -/

/-- Cells that were there still hold what they held, but for the report in one of them. -/
structure Spares (target : Nat) (cells later : Cells) : Prop where
  files : cells.files <+: later.files
  length : later.reports.length = cells.reports.length
  reports : ∀ cell, cell ≠ target → later.reports[cell]? = cells.reports[cell]?

theorem Spares.paths (spares : Spares target cells later) (other : cell ≠ target) :
    later.paths cell = cells.paths cell := by
  rw [Cells.paths, Cells.paths, List.getD_eq_getElem?_getD, List.getD_eq_getElem?_getD,
    spares.reports cell other]

theorem Spares.refl (target : Nat) (cells : Cells) : Spares target cells cells :=
  ⟨List.prefix_rfl, rfl, fun _ _ => rfl⟩

theorem Spares.trans (first : Spares target cells later) (second : Spares target later last) :
    Spares target cells last where
  files := first.files.trans second.files
  length := second.length.trans first.length
  reports cell other := (second.reports cell other).trans (first.reports cell other)

theorem file_of_grown (grown : cells.files <+: later.files) (inside : cell < cells.files.length) :
    later.file cell = cells.file cell := by
  obtain ⟨more, grown⟩ := grown
  simp [file, ← grown, List.getElem?_append_left inside]

theorem paths_mem (inside : cell < cells.reports.length) : cells.paths cell ∈ cells.reports := by
  simp [paths, inside]

theorem IsSound.lt (sound : cells.IsSound) (inside : cell < cells.reports.length) :
    ∀ entry ∈ (cells.paths cell).entries, entry.2 < cells.files.length :=
  sound _ (paths_mem inside)

/-- Cells that name file reports name the same ones when more are added. -/
theorem map_file_of_grown (grown : cells.files <+: later.files)
    (inside : ∀ entry ∈ entries, entry.2 < cells.files.length) :
    entries.map (fun entry => (entry.1, later.file entry.2)) =
      entries.map (fun entry => (entry.1, cells.file entry.2)) :=
  List.map_congr_left fun entry member => by rw [file_of_grown grown (inside entry member)]

theorem entries_report (cells : Cells) (cell : Nat) :
    (cells.report cell).entries =
      (cells.paths cell).entries.map fun entry => (entry.1, cells.file entry.2) := rfl

theorem Spares.report (spares : Spares target cells later) (sound : cells.IsSound)
    (inside : cell < cells.reports.length) (other : cell ≠ target) :
    later.report cell = cells.report cell := by
  apply Keyed.eq_of_entries_eq
  rw [entries_report, entries_report, spares.paths other,
    map_file_of_grown spares.files (sound.lt inside)]

/-! ## The report that is being merged -/

/-- A report that is being merged stands in a cell that is there, and all cells are sound. -/
structure Building (target : Nat) (merged : Report) (cells : Cells) : Prop where
  sound : cells.IsSound
  inside : target < cells.reports.length
  report : cells.report target = merged

theorem Building.contains (building : Building target merged cells) (path : String) :
    (cells.paths target).contains path = merged.contains path := by
  have same : (cells.paths target).keys = merged.keys := by
    rw [← building.report, Cells.report, Keyed.keys_mapValues]
  rw [Keyed.contains_eq_decide, Keyed.contains_eq_decide, same]

/-- What it takes for a file report to be made, perhaps in a new cell. -/
structure Settles (cells : Cells) (value : FileReport) (settled : Cells × Nat) : Prop where
  files : cells.files <+: settled.1.files
  reports : settled.1.reports = cells.reports
  inside : settled.2 < settled.1.files.length
  file : settled.1.file settled.2 = value

theorem settles_same (inside : cell < cells.files.length) :
    Settles cells (cells.file cell) (cells, cell) :=
  ⟨List.prefix_rfl, rfl, inside, rfl⟩

theorem settles_addFile (value : FileReport) :
    Settles cells value (cells.addFile value, cells.files.length) := by
  refine ⟨List.prefix_append _ _, rfl, ?_, ?_⟩
  · simp [addFile]
  · simp [addFile, file]

theorem settles_normalize (inside : cell < cells.files.length) :
    Settles cells (cells.file cell).normalized (cells.normalize cell) := by
  unfold normalize
  cases error : (cells.file cell).parsingError with
  | none =>
      have same : (cells.file cell).normalized = cells.file cell := by
        rw [FileReport.normalized, error]
      rw [same]
      exact settles_same inside
  | some e => exact settles_addFile _

theorem settles_tag (found : Option SourceFile) (inside : cell < cells.files.length) :
    Settles cells (found.elim (cells.file cell) fun file => (cells.file cell).tagged file.language)
      (cells.tag found cell) := by
  cases found with
  | none => exact settles_same inside
  | some file => exact settles_addFile _

theorem settles_settle (found : Option SourceFile) (inside : cell < cells.files.length) :
    Settles cells ((cells.file cell).merged found) (cells.settle found cell) := by
  have first := settles_normalize inside
  have second := settles_tag found first.inside
  refine ⟨first.files.trans second.files, second.reports.trans first.reports, second.inside, ?_⟩
  have tagged := second.file
  rw [first.file] at tagged
  cases found with
  | none => exact tagged
  | some file => exact tagged

/-- Once an entry with a new path is put, the report has it at its end, and no other cell has been
written to. -/
theorem Building.putEntry {value : FileReport} {settled : Cells × Nat}
    (building : Building target merged cells) (absent : path ∉ merged.keys)
    (settles : Settles cells value settled) :
    Building target (merged.put path value) (settled.1.putEntry target path settled.2) ∧
      Spares target cells (settled.1.putEntry target path settled.2) := by
  obtain ⟨next, cell⟩ := settled
  obtain ⟨grown, same, inside, there⟩ := settles
  simp only at grown same inside there ⊢
  have samePaths : next.paths = cells.paths := by
    funext other
    rw [paths, paths, same]
  have room : target < next.reports.length := same ▸ building.inside
  have fresh : path ∉ (next.paths target).keys := by
    rw [samePaths]
    have held := building.contains path
    rw [Keyed.contains_eq_decide, Keyed.contains_eq_decide] at held
    simpa [absent] using held
  have written : (next.putEntry target path cell).paths target =
      (next.paths target).put path cell := by
    simp [paths, Cells.putEntry, room]
  have entries : ((next.paths target).put path cell).entries =
      (next.paths target).entries ++ [(path, cell)] :=
    Keyed.entries_put_of_not_mem cell fresh
  refine ⟨⟨?_, ?_, ?_⟩, ⟨grown, ?_, ?_⟩⟩
  · intro report member entry stored
    change entry.2 < next.files.length
    have sound := building.sound
    rcases List.mem_or_eq_of_mem_set member with member | rfl
    · rw [same] at member
      exact Nat.lt_of_lt_of_le (sound report member entry stored) grown.length_le
    · rw [entries, samePaths, List.mem_append, List.mem_singleton] at stored
      rcases stored with stored | rfl
      · exact Nat.lt_of_lt_of_le (sound.lt building.inside entry stored) grown.length_le
      · exact inside
  · simpa [Cells.putEntry] using room
  · apply Keyed.eq_of_entries_eq
    rw [entries_report, written, entries, samePaths, List.map_append,
      Keyed.entries_put_of_not_mem value absent, ← building.report, entries_report]
    have stable := map_file_of_grown grown (building.sound.lt building.inside)
    change (cells.paths target).entries.map (fun entry => (entry.1, next.file entry.2)) ++
      [(path, next.file cell)] = _
    rw [stable, there]
  · simp [Cells.putEntry, same]
  · intro other different
    rw [← same]
    exact List.getElem?_set_ne different.symm

/-! ## A merge in place -/

/-- What has come of a merge: an error, or the report in its cell. -/
def outcome (cells : Cells) (target : Nat) : Option MergeError → Except MergeError Report
  | some e => .error e
  | none => .ok (cells.report target)

/-- Entries are put into a report in place as they are put into its value. -/
theorem absorbEntries_spec (files : Option FileGroup) (building : Building target merged cells)
    (inside : ∀ entry ∈ entries, entry.2 < cells.files.length) :
    let done := cells.absorbEntries files target entries
    done.1.IsSound ∧ Spares target cells done.1 ∧
      Report.absorbEntries files merged
          (entries.map fun entry => (entry.1, cells.file entry.2)) =
        done.1.outcome target done.2 := by
  induction entries generalizing cells merged with
  | nil => exact ⟨building.sound, .refl target cells, congrArg Except.ok building.report.symm⟩
  | cons entry entries induction =>
      obtain ⟨path, cell⟩ := entry
      obtain ⟨here, others⟩ := List.forall_mem_cons.mp inside
      rw [absorbEntries, List.map_cons, Report.absorbEntries, building.contains path]
      cases held : merged.contains path with
      | true => exact ⟨building.sound, .refl target cells, rfl⟩
      | false =>
          have absent : path ∉ merged.keys := by simpa [Keyed.contains_eq_decide] using held
          have settles := settles_settle (files.bind (·.get? path)) here
          obtain ⟨next, spared⟩ := building.putEntry absent settles
          have room : ∀ entry ∈ entries,
              entry.2 < ((cells.settle (files.bind (·.get? path)) cell).1.putEntry target path
                (cells.settle (files.bind (·.get? path)) cell).2).files.length :=
            fun entry member =>
              Nat.lt_of_lt_of_le (others entry member) spared.files.length_le
          obtain ⟨sound, spares, same⟩ := induction next room
          refine ⟨sound, spared.trans spares, ?_⟩
          rw [map_file_of_grown spared.files others] at same
          exact same

/-- Reports are put into a report in place as their values are put into its value. -/
theorem absorbAll_spec (files : Option FileGroup) (building : Building target merged cells)
    (inside : ∀ source ∈ sources, source < cells.reports.length ∧ source ≠ target) :
    let done := cells.absorbAll files target sources
    Spares target cells done.1 ∧
      (sources.map cells.report).foldlM (Report.absorb files) merged =
        done.1.outcome target done.2 := by
  induction sources generalizing cells merged with
  | nil => exact ⟨.refl target cells, congrArg Except.ok building.report.symm⟩
  | cons source sources induction =>
      obtain ⟨⟨here, other⟩, others⟩ := List.forall_mem_cons.mp inside
      obtain ⟨sound, spared, same⟩ :=
        absorbEntries_spec files building (building.sound.lt here)
      rw [absorbAll, List.map_cons, List.foldlM_cons, Report.absorb, entries_report, same]
      rcases done : cells.absorbEntries files target (cells.paths source).entries with
        ⟨next, stopped | stopped⟩
      · rw [done] at sound spared
        have room : target < next.reports.length := spared.length ▸ building.inside
        have still : ∀ source ∈ sources, source < next.reports.length ∧ source ≠ target := by
          intro source member
          rw [spared.length]
          exact others source member
        have values : sources.map next.report = sources.map cells.report :=
          List.map_congr_left fun source member =>
            spared.report building.sound (others source member).1 (others source member).2
        obtain ⟨spares, rest⟩ := induction ⟨sound, room, rfl⟩ still
        refine ⟨spared.trans spares, ?_⟩
        rw [← values]
        exact rest
      · rw [done] at spared
        exact ⟨spared, rfl⟩

theorem building_addReport (sound : cells.IsSound) :
    Building cells.reports.length ∅ cells.addReport := by
  have empty : cells.addReport.paths cells.reports.length = ∅ := by simp [paths, addReport]
  refine ⟨?_, by simp [addReport], ?_⟩
  · intro report member entry stored
    rcases List.mem_append.mp member with member | member
    · exact sound report member entry stored
    · obtain rfl : report = ∅ := by simpa using member
      cases stored
  · rw [report, empty]
    rfl

theorem report_addReport (inside : cell < cells.reports.length) :
    cells.addReport.report cell = cells.report cell := by
  have same : cells.addReport.paths cell = cells.paths cell := by
    simp [paths, addReport, List.getElem?_append_left inside]
  rw [report, report, same]
  rfl

/-- All cells but the last one are as they were if only the last one has been written to. -/
theorem Spares.kept (spares : Spares cells.reports.length cells.addReport later) :
    cells.reports <+: later.reports := by
  refine List.prefix_iff_getElem?.mpr fun cell inside => ?_
  rw [spares.reports cell (Nat.ne_of_lt inside)]
  simp [addReport, List.getElem?_append_left inside, inside]

/-- A merge in place gives what the merge of the values gives, in a new cell, and every cell that
was there holds what it held, whether the reports are merged or refused. -/
theorem merge_spec (files : Option FileGroup) (sound : cells.IsSound)
    (inside : ∀ source ∈ sources, source < cells.reports.length) :
    let done := cells.merge files sources
    done.2.map done.1.report = Report.merge files (sources.map cells.report) ∧
      cells.files <+: done.1.files ∧ cells.reports <+: done.1.reports := by
  have apart : ∀ source ∈ sources,
      source < cells.addReport.reports.length ∧ source ≠ cells.reports.length := by
    intro source member
    have here := inside source member
    exact ⟨by simpa [addReport] using Nat.lt_succ_of_lt here, Nat.ne_of_lt here⟩
  have values : sources.map cells.addReport.report = sources.map cells.report :=
    List.map_congr_left fun source member => report_addReport (inside source member)
  obtain ⟨spares, same⟩ := absorbAll_spec files (building_addReport sound) apart
  rw [values] at same
  rw [merge, Report.merge, same]
  rcases ran : cells.addReport.absorbAll files cells.reports.length sources with ⟨next, stop⟩
  rw [ran] at spares
  cases stop with
  | none => exact ⟨rfl, spares.files, spares.kept⟩
  | some e => exact ⟨rfl, spares.files, spares.kept⟩

end Cells

namespace Report

variable {files : Option FileGroup} {reports : List Report} {held : List String} {path : String}

/-! ## Paths that reports share -/

/-- Some path is a path of two different reports of a sequence. -/
def SharePath (reports : List Report) : Prop :=
  ∃ (i j : Nat) (left right : Report) (path : String), i ≠ j ∧ reports[i]? = some left ∧
    reports[j]? = some right ∧ path ∈ left.keys ∧ path ∈ right.keys

/-- In the order of the reports and of their entries, a path is the first one that an earlier report
holds: those before it are all different. -/
def IsFirstClash (reports : List Report) (path : String) : Prop :=
  ∃ before report after first rest, reports = before ++ report :: after ∧
    report.keys = first ++ path :: rest ∧ path ∈ before.flatMap Keyed.keys ∧
    (before.flatMap Keyed.keys ++ first).Nodup

theorem nodup_iff_not_sharePath :
    (reports.flatMap Keyed.keys).Nodup ↔ ¬SharePath reports := by
  have own : ∀ report ∈ reports, report.keys.Nodup := fun report _ => report.nodup_keys
  rw [List.nodup_flatMap, and_iff_right own, List.pairwise_iff_getElem]
  constructor
  · rintro apart ⟨i, j, left, right, path, different, first, second, here, there⟩
    obtain ⟨i_lt, rfl⟩ := List.getElem?_eq_some_iff.mp first
    obtain ⟨j_lt, rfl⟩ := List.getElem?_eq_some_iff.mp second
    rcases Nat.lt_or_gt_of_ne different with earlier | later
    · exact apart i j i_lt j_lt earlier here there
    · exact apart j i j_lt i_lt later there here
  · intro none i j i_lt j_lt earlier path here there
    exact none ⟨i, j, _, _, path, Nat.ne_of_lt earlier, List.getElem?_eq_getElem i_lt,
      List.getElem?_eq_getElem j_lt, here, there⟩

/-- A report whose paths are new keeps those held so far apart. -/
theorem nodup_append_keys (different : held.Nodup) {report : Report}
    (fresh : (report.keys.find? fun path => decide (path ∈ held)) = none) :
    (held ++ report.keys).Nodup := by
  rw [List.find?_eq_none] at fresh
  refine List.nodup_append'.mpr ⟨different, report.nodup_keys, fun path here there => ?_⟩
  exact fresh path there (decide_eq_true here)

theorem firstClash_eq_none_iff (different : held.Nodup) :
    firstClash held reports = none ↔ (held ++ reports.flatMap Keyed.keys).Nodup := by
  induction reports generalizing held with
  | nil => simp [firstClash, different]
  | cons report reports induction =>
      rw [firstClash, List.flatMap_cons, ← List.append_assoc]
      cases here : report.keys.find? fun path => decide (path ∈ held) with
      | none =>
          rw [Option.none_or]
          exact induction (nodup_append_keys different here)
      | some path =>
          have twice : path ∈ report.keys ∧ path ∈ held :=
            ⟨List.mem_of_find?_eq_some here, by simpa using List.find?_some here⟩
          refine iff_of_false (by simp) fun nodup => ?_
          exact List.disjoint_of_nodup_append nodup.of_append_left twice.2 twice.1

theorem exists_of_firstClash (different : held.Nodup)
    (clash : firstClash held reports = some path) :
    ∃ before report after first rest, reports = before ++ report :: after ∧
      report.keys = first ++ path :: rest ∧ path ∈ held ++ before.flatMap Keyed.keys ∧
      (held ++ before.flatMap Keyed.keys ++ first).Nodup := by
  induction reports generalizing held with
  | nil => simp [firstClash] at clash
  | cons report reports induction =>
      rw [firstClash] at clash
      cases here : report.keys.find? fun path => decide (path ∈ held) with
      | none =>
          rw [here, Option.none_or] at clash
          obtain ⟨before, other, after, first, rest, split, keys, held, nodup⟩ :=
            induction (nodup_append_keys different here) clash
          refine ⟨report :: before, other, after, first, rest, ?_, keys, ?_, ?_⟩
          · rw [split, List.cons_append]
          · rwa [List.flatMap_cons, ← List.append_assoc]
          · rwa [List.flatMap_cons, ← List.append_assoc]
      | some other =>
          rw [here, Option.some_or] at clash
          obtain rfl := Option.some.inj clash
          obtain ⟨known, first, rest, keys, new⟩ := List.find?_eq_some_iff_append.mp here
          refine ⟨[], report, reports, first, rest, rfl, keys, ?_, ?_⟩
          · simpa using known
          · have own : first.Nodup := by
              have whole := report.nodup_keys
              rw [keys] at whole
              exact whole.of_append_left
            rw [List.flatMap_nil, List.append_nil]
            refine List.nodup_append'.mpr ⟨different, own, fun key there member => ?_⟩
            simpa [there] using new key member

/-! ## The law -/

/-- An entry with what becomes of it in a merge: under the same path, a parsing error is turned into
the one finding of its message and line, findings are kept if there was none, and the language is
that of the file that was found, if one was. -/
structure MergesTo (files : Option FileGroup) (entry merged : String × FileReport) : Prop where
  path : merged.1 = entry.1
  failed : ∀ e, entry.2.parsingError = some e →
    merged.2.issues = [⟨"S2260", e.line, 0, .text e.message, none, none, [], []⟩]
  unfailed : entry.2.parsingError = none → merged.2.issues = entry.2.issues
  parsed : merged.2.parsingError = none
  known : ∀ file, files.bind (·.get? entry.1) = some file →
    merged.2.language = some file.language
  unknown : files.bind (·.get? entry.1) = none → merged.2.language = entry.2.language

theorem mergesTo_mergedEntry (files : Option FileGroup) (entry : String × FileReport) :
    MergesTo files entry (mergedEntry files entry) := by
  have issues : (mergedEntry files entry).2.issues = entry.2.normalized.issues := by
    unfold mergedEntry FileReport.merged
    split <;> rfl
  refine ⟨rfl, ?_, ?_, parsingError_mergedEntry entry, ?_, ?_⟩
  · intro e error
    rw [issues, FileReport.normalized, error]
    rfl
  · intro none
    rw [issues, FileReport.normalized, none]
  · intro file found
    rw [mergedEntry, found]
    rfl
  · intro unfound
    rw [mergedEntry, unfound]
    change entry.2.normalized.language = entry.2.language
    unfold FileReport.normalized
    split <;> rfl

theorem mergeReplies_built (files : Option FileGroup) (reports : List Report) :
    mergeReplies files (reports.map .built) = merge files reports := by
  rw [mergeReplies, merge, List.foldlM_map]
  rfl

/-- Reports are refused exactly if two of them share a path, and then with the first path that an
earlier report holds. Otherwise the merged report has their entries one after the other, each as it
is merged. Where the reports stand in cells, a merge in place gives the same and leaves every cell
that was there as it was, also when the reports are refused. -/
theorem merge_law (files : Option FileGroup) (reports : List Report) :
    mergeReplies files (reports.map .built) = merge files reports ∧
      ((∃ path, merge files reports = .error (.conflict path)) ↔ SharePath reports) ∧
      (∀ path, merge files reports = .error (.conflict path) → IsFirstClash reports path) ∧
      (¬SharePath reports →
        ∃ all, merge files reports = .ok all ∧ all.keys = reports.flatMap Keyed.keys ∧
          List.Forall₂ (MergesTo files) (reports.flatMap Keyed.entries) all.entries) ∧
      ∀ (cells : Cells) (sources : List Nat), cells.IsSound →
        (∀ source ∈ sources, source < cells.reports.length) →
        sources.map cells.report = reports →
          (cells.merge files sources).2.map (cells.merge files sources).1.report =
              merge files reports ∧
            cells.files <+: (cells.merge files sources).1.files ∧
            cells.reports <+: (cells.merge files sources).1.reports := by
  have none_iff : firstClash [] reports = none ↔ ¬SharePath reports := by
    rw [firstClash_eq_none_iff List.nodup_nil, List.nil_append, nodup_iff_not_sharePath]
  refine ⟨mergeReplies_built files reports, ?_, ?_, ?_, ?_⟩
  · cases clash : firstClash [] reports with
    | none =>
        obtain ⟨all, merged, -⟩ := merge_of_apart files clash
        refine iff_of_false ?_ (none_iff.mp clash)
        rintro ⟨path, refused⟩
        cases merged.symm.trans refused
    | some path =>
        refine iff_of_true ⟨path, merge_of_clash clash⟩ ?_
        by_contra apart
        cases clash.symm.trans (none_iff.mpr apart)
  · intro path refused
    cases clash : firstClash [] reports with
    | none =>
        obtain ⟨all, merged, -⟩ := merge_of_apart files clash
        cases merged.symm.trans refused
    | some first =>
        have conflicts : merge files reports = .error (.conflict first) := merge_of_clash clash
        cases conflicts.symm.trans refused
        exact exists_of_firstClash List.nodup_nil clash
  · intro apart
    obtain ⟨all, merged, entries⟩ := merge_of_apart files (none_iff.mpr apart)
    refine ⟨all, merged, ?_, ?_⟩
    · rw [Keyed.keys, entries, List.map_map, List.map_flatMap]
      rfl
    · rw [entries, List.forall₂_map_right_iff, List.forall₂_same]
      exact fun entry _ => mergesTo_mergedEntry files entry
  · rintro cells sources sound inside rfl
    exact Cells.merge_spec files sound inside

/-- Two reports that share a file report with a parsing error. -/
def sharedFailure : Cells where
  files := [⟨[], some ⟨"Unexpected token", some 3, none⟩, none⟩]
  reports := [Keyed.ofList [("/a.js", 0)], Keyed.ofList [("/b.js", 0)]]

theorem merge_law_sharedFailure :
    let reports := [0, 1].map sharedFailure.report
    let done := sharedFailure.merge none [0, 1]
    sharedFailure.IsSound ∧ (∀ source ∈ [0, 1], source < sharedFailure.reports.length) ∧
      ¬SharePath reports ∧
      (∃ all, merge none reports = .ok all ∧ all.keys = reports.flatMap Keyed.keys ∧
        List.Forall₂ (MergesTo none) (reports.flatMap Keyed.entries) all.entries) ∧
      done.2.map done.1.report = merge none reports ∧
      sharedFailure.files <+: done.1.files ∧ sharedFailure.reports <+: done.1.reports := by
  intro reports done
  have sound : sharedFailure.IsSound := by decide
  have inside : ∀ source ∈ [0, 1], source < sharedFailure.reports.length := by decide
  have apart : ¬SharePath reports := nodup_iff_not_sharePath.mp (by decide)
  obtain ⟨-, -, -, merged, kept⟩ := merge_law none reports
  exact ⟨sound, inside, apart, merged apart, kept sharedFailure [0, 1] sound inside rfl⟩

end Report

end Baseline
