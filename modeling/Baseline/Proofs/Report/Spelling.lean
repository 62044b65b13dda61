import Baseline.Proofs.Report.Answers
import Baseline.Proofs.Report.Cells

/-!
# Paths that are spelled in two ways

A path may be spelled with slashes or with backslashes. A described report is put under forward
slashes before it is merged, so two of its entries may fall into one without a word; a report that is
built is merged under the paths that it has. This file says when a merge keeps every entry.
-/

namespace Baseline.Report

open Keyed

variable {files : Option FileGroup} {reply : Reply Report} {replies : List (Reply Report)}
  {report merged all : Report} {path : String}

/-! ## Replies one after the other -/

/-- What the replies before the first that is refused are read as. -/
def readReplies : List (Reply Report) → List Report
  | [] => []
  | reply :: replies =>
    match ofReply reply with
    | .error _ => []
    | .ok report => report :: readReplies replies

/-- Why the first reply is refused that is. -/
def firstRefusal? : List (Reply Report) → Option CoercionError
  | [] => none
  | reply :: replies =>
    match ofReply reply with
    | .error e => some e
    | .ok _ => firstRefusal? replies

theorem firstRefusal?_eq_none_iff :
    firstRefusal? replies = none ↔ ∀ reply ∈ replies, ∃ report, ofReply reply = .ok report := by
  induction replies with
  | nil => simp [firstRefusal?]
  | cons reply replies induction =>
      rw [firstRefusal?, List.forall_mem_cons]
      cases ofReply reply with
      | error e => simp
      | ok report => simp [induction]

/-- Replies are merged as what they are read as, up to the first that is refused. -/
theorem mergeReplies_eq (files : Option FileGroup) (replies : List (Reply Report)) :
    mergeReplies files replies =
      merge files (readReplies replies) >>= fun all =>
        match firstRefusal? replies with
        | some e => .error (.coercion e)
        | none => .ok all := by
  rw [mergeReplies, merge]
  generalize (∅ : Report) = merged
  induction replies generalizing merged with
  | nil => rfl
  | cons reply replies induction =>
      rw [List.foldlM_cons, readReplies, firstRefusal?]
      cases ofReply reply with
      | error e => rfl
      | ok report =>
          dsimp only
          rw [List.foldlM_cons]
          cases absorb files merged report with
          | error e => rfl
          | ok next => exact induction next

/-- Replies conflict exactly if two of those before the first refusal are read with one path. -/
theorem exists_conflict_iff :
    (∃ path, mergeReplies files replies = .error (.conflict path)) ↔
      SharePath (readReplies replies) := by
  rw [mergeReplies_eq, ← not_iff_not, ← nodup_iff_not_sharePath]
  rw [← List.nil_append (List.flatMap _ _), ← firstClash_eq_none_iff List.nodup_nil]
  cases clash : firstClash [] (readReplies replies) with
  | some path =>
      rw [merge_of_clash clash]
      exact iff_of_false (fun none => none ⟨path, rfl⟩) (by simp)
  | none =>
      obtain ⟨all, merged, -⟩ := merge_of_apart files clash
      rw [merged]
      refine iff_of_true ?_ rfl
      rintro ⟨path, refused⟩
      cases refusal : firstRefusal? replies <;> simp [refusal, bind, Except.bind] at refused

/-! ## Paths under forward slashes -/

/-- The paths of a reply, each spelled with slashes. A path that the reply spells in two ways stands
there twice. -/
def spelled : Reply Report → List String
  | .built report => report.keys.map unixPath
  | .described (.map answer) => (listed answer).map fun entry => unixPath entry.1
  | _ => []

/-- A reply that spells no path in two ways is read with an entry for each. -/
theorem map_unixPath_keys (read : ofReply reply = .ok report) (apart : (spelled reply).Nodup) :
    report.keys.map unixPath = spelled reply := by
  cases reply with
  | built other =>
      cases read
      rfl
  | foreign kind => contradiction
  | described payload =>
      cases payload with
      | map answer =>
          have keys := keys_ofFileEntries (ofFileEntries_listed read) apart
          rw [keys, keys_empty, List.nil_append, spelled, List.map_map]
          exact List.map_congr_left fun entry _ => unixPath_unixPath entry.1
      | _ => contradiction

/-- The paths of described reports have no backslash. -/
theorem not_mem_of_described {payload : Payload} (read : ofPayload payload = .ok report)
    (member : path ∈ report.keys) : '\\' ∉ path.toList := by
  cases payload with
  | map answer =>
      obtain ⟨entry, -, rfl⟩ := (mem_keys_ofPayload read).mp member
      exact not_mem_unixPath entry.1
  | _ => contradiction

theorem map_unixPath_readReplies (apart : (replies.flatMap spelled).Nodup) :
    ((readReplies replies).flatMap keys).map unixPath <+: replies.flatMap spelled ∧
      (firstRefusal? replies = none →
        ((readReplies replies).flatMap keys).map unixPath = replies.flatMap spelled) := by
  induction replies with
  | nil => simp [readReplies]
  | cons reply replies induction =>
      rw [List.flatMap_cons] at apart ⊢
      obtain ⟨start, whole⟩ := induction apart.of_append_right
      rw [readReplies, firstRefusal?]
      cases read : ofReply reply with
      | error e => simp
      | ok report =>
          have own := map_unixPath_keys read apart.of_append_left
          simp only [List.flatMap_cons, List.map_append, own]
          exact ⟨(List.prefix_append_right_inj _).mpr start, fun none => by rw [whole none]⟩

theorem mem_readReplies (unrefused : firstRefusal? replies = none) :
    report ∈ readReplies replies ↔ ∃ reply ∈ replies, ofReply reply = .ok report := by
  induction replies with
  | nil => simp [readReplies]
  | cons reply replies induction =>
      rw [firstRefusal?] at unrefused
      rw [readReplies]
      cases read : ofReply reply with
      | error e => simp [read] at unrefused
      | ok first =>
          rw [read] at unrefused
          simp [induction unrefused, read, eq_comm]

/-- Replies that can all be read are merged into the paths of their reports if no two entries have
the same path. -/
theorem exists_merged (files : Option FileGroup) (apart : (replies.flatMap spelled).Nodup)
    (unrefused : firstRefusal? replies = none) :
    ∃ all, mergeReplies files replies = .ok all ∧
      all.keys = (readReplies replies).flatMap keys := by
  have whole := (map_unixPath_readReplies apart).2 unrefused
  have clear : firstClash [] (readReplies replies) = none := by
    rw [firstClash_eq_none_iff List.nodup_nil, List.nil_append]
    exact List.Nodup.of_map unixPath (whole ▸ apart)
  obtain ⟨all, merged, entries⟩ := merge_of_apart files clear
  refine ⟨all, ?_, ?_⟩
  · rw [mergeReplies_eq, merged, unrefused]
    rfl
  · rw [keys, entries, List.map_map, List.map_flatMap]
    rfl

theorem firstRefusal?_of_merged (merged : mergeReplies files replies = .ok report) :
    firstRefusal? replies = none := by
  rw [mergeReplies_eq] at merged
  obtain ⟨before, -, ends⟩ := Except.exists_of_bind_eq_ok merged
  cases refusal : firstRefusal? replies with
  | none => rfl
  | some e => simp [refusal] at ends

/-- Paths with backslashes come from built reports only. -/
theorem not_mem_of_readReplies (unrefused : firstRefusal? replies = none)
    (plain : ∀ report, .built report ∈ replies → ∀ path ∈ report.keys, '\\' ∉ path.toList)
    (member : path ∈ (readReplies replies).flatMap keys) : '\\' ∉ path.toList := by
  obtain ⟨report, read, inside⟩ := List.mem_flatMap.mp member
  obtain ⟨reply, given, reads⟩ := (mem_readReplies unrefused).mp read
  cases reply with
  | built other =>
      cases reads
      exact plain _ given path inside
  | described payload => exact not_mem_of_described reads inside
  | foreign kind => contradiction

/-! ## When a merge keeps every entry -/

/-- A merge keeps every entry of its replies. If two entries have the same path, however they spell
it, it is refused for a conflict; otherwise each entry has one of its own, under its path with
slashes. -/
structure KeepsEntries (files : Option FileGroup) (replies : List (Reply Report)) : Prop where
  refused : ¬(replies.flatMap spelled).Nodup →
    ∃ path, mergeReplies files replies = .error (.conflict path)
  kept : (replies.flatMap spelled).Nodup →
    ∃ all, mergeReplies files replies = .ok all ∧ all.keys.Perm (replies.flatMap spelled)

/-- A merge keeps every entry exactly if entries with the same path stand in two replies that are
read with one path, and if otherwise every reply can be read and those that are built spell no path
with a backslash. -/
theorem keepsEntries_iff (files : Option FileGroup) (replies : List (Reply Report)) :
    KeepsEntries files replies ↔
      (¬(replies.flatMap spelled).Nodup → SharePath (readReplies replies)) ∧
        ((replies.flatMap spelled).Nodup →
          (∀ reply ∈ replies, ∃ report, ofReply reply = .ok report) ∧
            ∀ report, .built report ∈ replies → ∀ path ∈ report.keys, '\\' ∉ path.toList) := by
  constructor
  · rintro ⟨refused, kept⟩
    refine ⟨fun twice => exists_conflict_iff.mp (refused twice), fun apart => ?_⟩
    obtain ⟨all, merged, same⟩ := kept apart
    have unrefused := firstRefusal?_of_merged merged
    refine ⟨firstRefusal?_eq_none_iff.mp unrefused, ?_⟩
    intro report built path member
    obtain ⟨other, again, keys⟩ := exists_merged files apart unrefused
    obtain rfl : all = other := by
      cases merged.symm.trans again
      rfl
    have read : report ∈ readReplies replies := (mem_readReplies unrefused).mpr ⟨_, built, rfl⟩
    have listed : path ∈ replies.flatMap spelled := by
      rw [← same.mem_iff, keys]
      exact List.mem_flatMap.mpr ⟨report, read, member⟩
    rw [← (map_unixPath_readReplies apart).2 unrefused] at listed
    obtain ⟨original, -, rfl⟩ := List.mem_map.mp listed
    exact not_mem_unixPath original
  · rintro ⟨clash, plain⟩
    refine ⟨fun twice => exists_conflict_iff.mpr (clash twice), fun apart => ?_⟩
    obtain ⟨readable, slashed⟩ := plain apart
    have unrefused := firstRefusal?_eq_none_iff.mpr readable
    obtain ⟨all, merged, keys⟩ := exists_merged files apart unrefused
    refine ⟨all, merged, ?_⟩
    rw [keys, ← (map_unixPath_readReplies apart).2 unrefused]
    have same (path : String) (member : path ∈ (readReplies replies).flatMap Keyed.keys) :
        unixPath path = path :=
      unixPath_of_not_mem (not_mem_of_readReplies unrefused slashed member)
    exact .of_eq ((List.map_congr_left same).trans (List.map_id _)).symm

/-- An answer with two reports of one file, whose path it spells in two ways. -/
def twoSpellings : Payload :=
  .map [("p\\a.js", .map [("issues", .list [.map [("ruleId", .text "S1")]])]), ("p/a.js", .map [])]

/-- The second report takes the place of the first, which is lost. -/
theorem twoSpellings_not_keepsEntries :
    ¬KeepsEntries none [.described twoSpellings] ∧
      (mergeReplies none [.described twoSpellings]).map Keyed.size = .ok 1 := by
  have merged : (mergeReplies none [.described twoSpellings]).map Keyed.size = .ok 1 := by
    decide +kernel
  refine ⟨fun keeps => ?_, merged⟩
  obtain ⟨path, refused⟩ := keeps.refused (by decide +kernel)
  rw [refused] at merged
  contradiction

end Baseline.Report
