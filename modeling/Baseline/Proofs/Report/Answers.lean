import Baseline.Proofs.Except
import Baseline.Proofs.Keyed
import Baseline.Proofs.Text.Pieces
import Baseline.Report.Coercion
import Mathlib.Data.List.Nodup

/-!
# How the answer of an analyzer is read

An answer lists the reports of files under paths, either in its `files` or by itself. The reports are
put in order under forward slashes, a later one taking the place of an earlier one with its path. So
each path of the answer has an entry, and each entry comes from the answer.
-/

namespace Baseline

namespace Report

open Keyed

variable {report start : Report} {answer entries : List (String × Payload)}
  {path : String} {file : FileReport}

/-- What an answer lists as the reports of files, under the paths that it spells. -/
def listed (answer : List (String × Payload)) : List (String × Payload) :=
  match (Payload.field? answer "files").getD (.map answer) with
  | .map files => files
  | _ => []

/-- What an answer lists is read when it is read. -/
theorem ofFileEntries_listed (read : ofPayload (.map answer) = .ok report) :
    ofFileEntries ∅ (listed answer) = .ok report := by
  rw [ofPayload] at read
  rw [listed]
  generalize (Payload.field? answer "files").getD (.map answer) = files at read ⊢
  cases files with
  | map files => exact read
  | _ => contradiction

/-- An answer that lists anything is read as what it lists. -/
theorem ofPayload_of_listed (some : listed answer ≠ []) :
    ofPayload (.map answer) = ofFileEntries ∅ (listed answer) := by
  rw [listed] at some ⊢
  rw [ofPayload]
  generalize (Payload.field? answer "files").getD (.map answer) = files at some ⊢
  cases files with
  | map files => rfl
  | _ => contradiction

/-! ## Entries one after the other -/

theorem ofFileEntries_cons {entry : String × Payload} :
    ofFileEntries start (entry :: entries) = .ok report ↔
      ∃ file, FileReport.ofPayload entry.2 = .ok file ∧
        ofFileEntries (start.put (unixPath entry.1) file) entries = .ok report := by
  rw [ofFileEntries]
  cases read : FileReport.ofPayload entry.2 with
  | error e => simp [bind, Except.bind]
  | ok file => simp [bind, Except.bind]

/-- Entries can be read exactly if each of their reports can be. -/
theorem exists_ofFileEntries_iff (start : Report) :
    (∃ report, ofFileEntries start entries = .ok report) ↔
      ∀ entry ∈ entries, ∃ file, FileReport.ofPayload entry.2 = .ok file := by
  induction entries generalizing start with
  | nil => simp [ofFileEntries]
  | cons entry entries induction =>
      simp only [ofFileEntries_cons, List.forall_mem_cons]
      constructor
      · rintro ⟨report, file, read, rest⟩
        exact ⟨⟨file, read⟩, (induction _).mp ⟨report, rest⟩⟩
      · rintro ⟨⟨file, read⟩, others⟩
        obtain ⟨report, rest⟩ := (induction (start.put (unixPath entry.1) file)).mpr others
        exact ⟨report, file, read, rest⟩

theorem mem_keys_ofFileEntries (read : ofFileEntries start entries = .ok report) :
    path ∈ report.keys ↔ path ∈ start.keys ∨ ∃ entry ∈ entries, unixPath entry.1 = path := by
  induction entries generalizing start with
  | nil =>
      cases read
      simp
  | cons entry entries induction =>
      obtain ⟨file, -, rest⟩ := ofFileEntries_cons.mp read
      simp only [induction rest, mem_keys_put, List.mem_cons, exists_eq_or_imp, or_assoc,
        eq_comm (a := path)]

/-- Paths that stay different under forward slashes all get an entry, in their order. -/
theorem keys_ofFileEntries (read : ofFileEntries start entries = .ok report)
    (apart : (start.keys ++ entries.map fun entry => unixPath entry.1).Nodup) :
    report.keys = start.keys ++ entries.map fun entry => unixPath entry.1 := by
  induction entries generalizing start with
  | nil =>
      cases read
      simp
  | cons entry entries induction =>
      obtain ⟨file, -, rest⟩ := ofFileEntries_cons.mp read
      rw [List.map_cons, List.append_cons] at apart ⊢
      have fresh : unixPath entry.1 ∉ start.keys := by
        intro member
        have twice := List.nodup_append'.mp apart.of_append_left
        exact twice.2.2 member (List.mem_singleton_self _)
      have put : (start.put (unixPath entry.1) file).keys = start.keys ++ [unixPath entry.1] :=
        keys_put_of_not_mem fresh
      rw [← put] at apart ⊢
      exact induction rest apart

/-- Each entry was there before or is one of those that are read. -/
theorem of_mem_ofFileEntries (read : ofFileEntries start entries = .ok report)
    (member : (path, file) ∈ report.entries) :
    (path, file) ∈ start.entries ∨
      ∃ entry ∈ entries, unixPath entry.1 = path ∧ FileReport.ofPayload entry.2 = .ok file := by
  induction entries generalizing start with
  | nil =>
      cases read
      exact .inl member
  | cons entry entries induction =>
      obtain ⟨first, taken, rest⟩ := ofFileEntries_cons.mp read
      rcases induction rest with before | ⟨other, listed, spelled, reads⟩
      · rcases mem_entries_put.mp before with same | ⟨before, -⟩
        · obtain ⟨rfl, rfl⟩ := Prod.mk.inj same
          exact .inr ⟨entry, List.mem_cons_self, rfl, taken⟩
        · exact .inl before
      · exact .inr ⟨other, List.mem_cons_of_mem _ listed, spelled, reads⟩

/-- What is listed last under a path, however it is spelled. -/
def lastOf (path : String) (entries : List (String × Payload)) : Option Payload :=
  (entries.reverse.find? fun entry => unixPath entry.1 == path).map Prod.snd

theorem lastOf_cons {entry : String × Payload} :
    lastOf path (entry :: entries) =
      (lastOf path entries).or (if unixPath entry.1 = path then some entry.2 else none) := by
  rw [lastOf, lastOf, List.reverse_cons, List.find?_append, Option.map_or]
  congr 1
  rw [List.find?_singleton]
  split <;> simp_all

/-- The report of a file is what is listed last under its path. -/
theorem get?_ofFileEntries (read : ofFileEntries start entries = .ok report) (path : String) :
    match lastOf path entries with
    | none => report.get? path = start.get? path
    | some value => ∃ file, FileReport.ofPayload value = .ok file ∧ report.get? path = some file := by
  induction entries generalizing start with
  | nil =>
      cases read
      rfl
  | cons entry entries induction =>
      obtain ⟨file, taken, rest⟩ := ofFileEntries_cons.mp read
      have later := induction rest
      rw [lastOf_cons]
      cases last : lastOf path entries with
      | some value =>
          rw [last] at later
          exact later
      | none =>
          rw [last, get?_put] at later
          by_cases same : unixPath entry.1 = path
          · rw [if_pos same.symm] at later
            simpa [same] using ⟨file, taken, later⟩
          · rw [if_neg (Ne.symm same)] at later
            simpa [same] using later

/-- The paths of an answer that is read are those that it lists. -/
theorem mem_keys_ofPayload (read : ofPayload (.map answer) = .ok report) :
    path ∈ report.keys ↔ ∃ entry ∈ listed answer, unixPath entry.1 = path := by
  simp [mem_keys_ofFileEntries (ofFileEntries_listed read)]

/-- Each entry of an answer that is read is one that it lists. -/
theorem of_mem_ofPayload (read : ofPayload (.map answer) = .ok report)
    (member : (path, file) ∈ report.entries) :
    ∃ entry ∈ listed answer, unixPath entry.1 = path ∧ FileReport.ofPayload entry.2 = .ok file := by
  rcases of_mem_ofFileEntries (ofFileEntries_listed read) member with before | found
  · contradiction
  · exact found

end Report

end Baseline
