import Baseline.Proofs.Keyed
import Baseline.Report.Merge
import Mathlib.Data.List.Find

/-!
# Merging reports

A report is absorbed by what was merged before it unless they share a path: then the first one in
the report's order is named. Otherwise its entries follow those merged before, each as it is merged.
-/

namespace Baseline.Report

open Keyed

variable {files : Option FileGroup} {merged report : Report} {path key : String}
  {entries : List (String × FileReport)}

/-- An entry of a report as it is merged. -/
def mergedEntry (files : Option FileGroup) (entry : String × FileReport) : String × FileReport :=
  (entry.1, entry.2.merged (files.bind (·.get? entry.1)))

theorem keys_of_mergedEntries {all : Report}
    (whole : all.entries = merged.entries ++ report.entries.map (mergedEntry files)) :
    all.keys = merged.keys ++ report.keys := by
  simp [keys, whole, Function.comp_def, mergedEntry]

/-- Once the first of some entries with different paths is put, the paths of the others are as new
as they were. -/
theorem find?_contains_put {value : FileReport} {keys : List String}
    (absent : key ∉ merged.keys) (fresh : key ∉ keys) :
    keys.find? (merged.put key value).contains = keys.find? merged.contains := by
  refine List.find?_congr fun other member => ?_
  have different : other ≠ key := fun same => fresh (same ▸ member)
  simp [contains_eq_decide, keys_put_of_not_mem absent, different]

theorem absorbEntries_of_conflict (nodup : (entries.map Prod.fst).Nodup)
    (first : (entries.map Prod.fst).find? merged.contains = some path) :
    absorbEntries files merged entries = .error (.conflict path) := by
  induction entries generalizing merged with
  | nil => simp at first
  | cons entry entries induction =>
      rw [List.map_cons, List.nodup_cons] at nodup
      rw [List.map_cons, List.find?_cons] at first
      rw [absorbEntries]
      cases there : merged.contains entry.1 with
      | true =>
          rw [there] at first
          cases first
          rfl
      | false =>
          have absent : entry.1 ∉ merged.keys := by simpa [contains_eq_decide] using there
          rw [there] at first
          exact induction nodup.2 ((find?_contains_put absent nodup.1).trans first)

theorem absorbEntries_of_disjoint (nodup : (entries.map Prod.fst).Nodup)
    (apart : (entries.map Prod.fst).find? merged.contains = none) :
    ∃ all, absorbEntries files merged entries = .ok all ∧
      all.entries = merged.entries ++ entries.map (mergedEntry files) := by
  induction entries generalizing merged with
  | nil => exact ⟨merged, rfl, by simp⟩
  | cons entry entries induction =>
      rw [List.map_cons, List.nodup_cons] at nodup
      rw [List.map_cons, List.find?_cons] at apart
      rw [absorbEntries]
      cases there : merged.contains entry.1 with
      | true =>
          rw [there] at apart
          contradiction
      | false =>
          have absent : entry.1 ∉ merged.keys := by simpa [contains_eq_decide] using there
          rw [there] at apart
          obtain ⟨all, absorbed, whole⟩ :=
            induction nodup.2 ((find?_contains_put absent nodup.1).trans apart)
          refine ⟨all, absorbed, ?_⟩
          rw [whole, entries_put_of_not_mem _ absent]
          simp [mergedEntry]

theorem absorb_of_conflict (first : report.keys.find? merged.contains = some path) :
    absorb files merged report = .error (.conflict path) :=
  absorbEntries_of_conflict report.nodup first

theorem absorb_of_disjoint (files : Option FileGroup)
    (apart : report.keys.find? merged.contains = none) :
    ∃ all, absorb files merged report = .ok all ∧
      all.entries = merged.entries ++ report.entries.map (mergedEntry files) :=
  absorbEntries_of_disjoint report.nodup apart

/-! ## Many reports -/

/-- The first path, in the order of the reports and of their entries, that is held before its report
comes. -/
def firstClash (held : List String) : List Report → Option String
  | [] => none
  | report :: rest =>
    (report.keys.find? fun path => decide (path ∈ held)).or
      (firstClash (held ++ report.keys) rest)

theorem contains_eq_held (merged : Report) :
    merged.contains = fun path => decide (path ∈ merged.keys) :=
  funext (contains_eq_decide merged)

theorem foldlM_absorb_of_clash {reports : List Report}
    (clash : firstClash merged.keys reports = some path) :
    reports.foldlM (absorb files) merged = .error (.conflict path) := by
  induction reports generalizing merged with
  | nil => simp [firstClash] at clash
  | cons report reports induction =>
      rw [firstClash, ← contains_eq_held] at clash
      rw [List.foldlM_cons]
      cases here : report.keys.find? merged.contains with
      | some first =>
          rw [here, Option.some_or] at clash
          cases clash
          rw [absorb_of_conflict here]
          rfl
      | none =>
          rw [here, Option.none_or] at clash
          obtain ⟨all, absorbed, whole⟩ := absorb_of_disjoint files here
          rw [absorbed]
          exact induction (keys_of_mergedEntries whole ▸ clash)

theorem foldlM_absorb_of_apart (files : Option FileGroup) {reports : List Report}
    (apart : firstClash merged.keys reports = none) :
    ∃ all, reports.foldlM (absorb files) merged = .ok all ∧
      all.entries = merged.entries ++ (reports.flatMap Keyed.entries).map (mergedEntry files) := by
  induction reports generalizing merged with
  | nil => exact ⟨merged, rfl, by simp⟩
  | cons report reports induction =>
      rw [firstClash, ← contains_eq_held, Option.or_eq_none_iff] at apart
      rw [List.foldlM_cons]
      obtain ⟨all, absorbed, whole⟩ := absorb_of_disjoint files apart.1
      obtain ⟨every, followed, rest⟩ := induction (keys_of_mergedEntries whole ▸ apart.2)
      refine ⟨every, ?_, ?_⟩
      · rw [absorbed]
        exact followed
      · rw [rest, whole]
        simp

/-- Reports with a path in common are refused with the first such path. -/
theorem merge_of_clash {reports : List Report} (clash : firstClash [] reports = some path) :
    merge files reports = .error (.conflict path) :=
  foldlM_absorb_of_clash clash

/-- Reports without a path in common are put one after the other. -/
theorem merge_of_apart (files : Option FileGroup) {reports : List Report}
    (apart : firstClash [] reports = none) :
    ∃ all, merge files reports = .ok all ∧
      all.entries = (reports.flatMap Keyed.entries).map (mergedEntry files) :=
  @foldlM_absorb_of_apart ∅ files reports apart

theorem parsingError_mergedEntry (entry : String × FileReport) :
    (mergedEntry files entry).2.parsingError = none := by
  unfold mergedEntry FileReport.merged
  split
  · exact FileReport.parsingError_normalized entry.2
  · exact FileReport.parsingError_normalized entry.2

theorem language_mergedEntry {group : FileGroup} {file : SourceFile} {entry : String × FileReport}
    (found : group.get? entry.1 = some file) :
    (mergedEntry (some group) entry).2.language = some file.language := by
  simp [mergedEntry, FileReport.merged, found, FileReport.tagged]

end Baseline.Report
