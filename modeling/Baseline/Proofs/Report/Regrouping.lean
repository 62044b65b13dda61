import Baseline.Proofs.Report.Spelling

/-!
# Merging in parts and in another order

What was merged can be merged with more: nothing in it changes a second time, so it makes no
difference whether reports are merged at once or in parts. In another order the same reports are
merged into the same map, or conflict as well.
-/

namespace Baseline

/-! ## What is merged twice -/

namespace FileReport

variable {report : FileReport}

theorem normalized_of_none (settled : report.parsingError = none) : report.normalized = report := by
  rw [normalized, settled]

/-- A report of a file that was merged is merged as it is. -/
theorem merged_merged (found : Option SourceFile) (report : FileReport) :
    (report.merged found).merged found = report.merged found := by
  have settled := parsingError_normalized report
  cases found with
  | none => exact normalized_of_none settled
  | some file =>
      have tagged : (report.normalized.tagged file.language).normalized =
          report.normalized.tagged file.language := normalized_of_none settled
      rw [merged, merged, tagged]
      rfl

end FileReport

namespace Report

open Keyed

variable {files : Option FileGroup} {reply : Reply Report} {replies others : List (Reply Report)}
  {merged all same : Report} {path : String}

theorem mergedEntry_mergedEntry (entry : String × FileReport) :
    mergedEntry files (mergedEntry files entry) = mergedEntry files entry := by
  rw [mergedEntry, mergedEntry, FileReport.merged_merged]

/-- Replies that are merged were all read, no two of their reports have a path in common, and the
entries of these are merged one after the other. -/
theorem entries_of_merged (merges : mergeReplies files replies = .ok all) :
    ((readReplies replies).flatMap keys).Nodup ∧
      all.entries = ((readReplies replies).flatMap entries).map (mergedEntry files) := by
  have unrefused := firstRefusal?_of_merged merges
  rw [mergeReplies_eq, unrefused] at merges
  obtain ⟨before, merges, ends⟩ := Except.exists_of_bind_eq_ok merges
  cases ends
  cases clash : firstClash [] (readReplies replies) with
  | some path => cases merges.symm.trans (merge_of_clash clash)
  | none =>
      obtain ⟨whole, merged, entries⟩ := merge_of_apart files clash
      cases merges.symm.trans merged
      exact ⟨(firstClash_eq_none_iff List.nodup_nil).mp clash, entries⟩

/-- What was merged is absorbed by nothing as it is. -/
theorem absorb_merged (merges : mergeReplies files replies = .ok all) :
    absorb files ∅ all = .ok all := by
  have apart : all.keys.find? (∅ : Report).contains = none :=
    List.find?_eq_none.mpr fun _ _ => by simp [contains]
  obtain ⟨again, absorbed, whole⟩ := absorb_of_disjoint files apart
  obtain ⟨-, entries⟩ := entries_of_merged merges
  have same : again = all := by
    apply eq_of_entries_eq
    rw [whole, entries_empty, List.nil_append, entries, List.map_map]
    exact List.map_congr_left fun entry _ => mergedEntry_mergedEntry entry
  rw [absorbed, same]

/-! ## Merging in parts -/

/-- Merging what some replies were merged into with further ones gives what merging all of them
gives, refusals included. -/
theorem mergeReplies_append (files : Option FileGroup) (replies others : List (Reply Report)) :
    (mergeReplies files replies >>= fun all => mergeReplies files (.built all :: others)) =
      mergeReplies files (replies ++ others) := by
  have whole : mergeReplies files (replies ++ others) = _ := List.foldlM_append
  rw [whole]
  change _ = mergeReplies files replies >>= _
  cases merges : mergeReplies files replies with
  | error e => rfl
  | ok all =>
      rw [Except.ok_bind, Except.ok_bind, mergeReplies, List.foldlM_cons]
      change absorb files ∅ all >>= _ = _
      rw [absorb_merged merges, Except.ok_bind]

/-! ## Merging in another order -/

/-- Replies that can all be read are read one by one. -/
theorem readReplies_eq_filterMap (readable : ∀ reply ∈ replies, ∃ report, ofReply reply = .ok report) :
    readReplies replies = replies.filterMap fun reply => (ofReply reply).toOption := by
  induction replies with
  | nil => rfl
  | cons reply replies induction =>
      obtain ⟨⟨report, read⟩, others⟩ := List.forall_mem_cons.mp readable
      rw [readReplies, List.filterMap_cons, read, induction others]
      rfl

/-- Replies that can all be read are merged, or two of them conflict. -/
theorem merged_or_conflict (files : Option FileGroup)
    (readable : ∀ reply ∈ replies, ∃ report, ofReply reply = .ok report) :
    (∃ all, mergeReplies files replies = .ok all) ∨
      ∃ path, mergeReplies files replies = .error (.conflict path) := by
  rw [mergeReplies_eq, firstRefusal?_eq_none_iff.mpr readable]
  cases clash : firstClash [] (readReplies replies) with
  | some path => exact .inr ⟨path, by rw [merge_of_clash clash, Except.error_bind]⟩
  | none =>
      obtain ⟨all, merged, -⟩ := merge_of_apart files clash
      exact .inl ⟨all, by rw [merged, Except.ok_bind]⟩

/-- Replies that can all be read are merged in another order into the same map, or conflict in both
orders. -/
theorem mergeReplies_perm (readable : ∀ reply ∈ replies, ∃ report, ofReply reply = .ok report)
    (perm : replies.Perm others) :
    (∃ path other, mergeReplies files replies = .error (.conflict path) ∧
        mergeReplies files others = .error (.conflict other)) ∨
      ∃ all same, mergeReplies files replies = .ok all ∧ mergeReplies files others = .ok same ∧
        ∀ path, all.get? path = same.get? path := by
  have readable_others : ∀ reply ∈ others, ∃ report, ofReply reply = .ok report :=
    fun reply member => readable reply (perm.mem_iff.mpr member)
  have reports : (readReplies replies).Perm (readReplies others) := by
    rw [readReplies_eq_filterMap readable, readReplies_eq_filterMap readable_others]
    exact perm.filterMap _
  have share_iff : SharePath (readReplies replies) ↔ SharePath (readReplies others) := by
    rw [← not_iff_not, ← nodup_iff_not_sharePath, ← nodup_iff_not_sharePath]
    exact (reports.flatMap_right keys).nodup_iff
  rcases merged_or_conflict files readable with ⟨all, merges⟩ | ⟨path, conflict⟩
  · rcases merged_or_conflict files readable_others with ⟨same, others_merge⟩ | ⟨path, conflict⟩
    · refine .inr ⟨all, same, merges, others_merge, get?_eq_of_perm ?_⟩
      rw [(entries_of_merged merges).2, (entries_of_merged others_merge).2]
      exact (reports.flatMap_right entries).map _
    · have shared := share_iff.mpr (exists_conflict_iff.mp ⟨path, conflict⟩)
      obtain ⟨path, conflict⟩ := exists_conflict_iff.mpr shared
      cases merges.symm.trans conflict
  · have shared := share_iff.mp (exists_conflict_iff.mp ⟨path, conflict⟩)
    obtain ⟨other, conflict_others⟩ := exists_conflict_iff.mpr shared
    exact .inl ⟨path, other, conflict, conflict_others⟩

/-- Replies that can all be read are merged in parts as they are at once, with a conflict at the same
path or none, and what was merged is merged alone as it is. In another order they are merged into the
same map, or conflict in both orders. -/
theorem mergeReplies_regroups (files : Option FileGroup) {replies others : List (Reply Report)}
    (readable : ∀ reply ∈ replies ++ others, ∃ report, ofReply reply = .ok report) :
    (mergeReplies files replies >>= fun all => mergeReplies files (.built all :: others)) =
        mergeReplies files (replies ++ others) ∧
      (∀ e, mergeReplies files (replies ++ others) = .error e → ∃ path, e = .conflict path) ∧
      (∀ all, mergeReplies files replies = .ok all → mergeReplies files [.built all] = .ok all) ∧
      ∀ reordered, replies.Perm reordered →
        (∃ path other, mergeReplies files replies = .error (.conflict path) ∧
            mergeReplies files reordered = .error (.conflict other)) ∨
          ∃ all same, mergeReplies files replies = .ok all ∧
            mergeReplies files reordered = .ok same ∧ ∀ path, all.get? path = same.get? path := by
  refine ⟨mergeReplies_append files replies others, ?_, ?_, ?_⟩
  · intro e refused
    rcases merged_or_conflict files readable with ⟨all, merges⟩ | ⟨path, conflict⟩
    · cases refused.symm.trans merges
    · cases refused.symm.trans conflict
      exact ⟨path, rfl⟩
  · intro all merges
    have again := mergeReplies_append files replies []
    rwa [merges, Except.ok_bind, List.append_nil, merges] at again
  · intro reordered perm
    exact mergeReplies_perm (fun reply member => readable reply (List.mem_append_left _ member)) perm

/-- An answer about a script that could not be parsed. -/
def brokenScript : Reply Report :=
  .described (.map [("p/a.js", .map [("parsingError", .map [("message", .text "m")])])])

/-- A report about a data file in which nothing was found. -/
def cleanData : Reply Report := .built (Keyed.ofList [("p/b.yml", .clean)])

theorem mergeReplies_regroups_brokenScript :
    (∀ reply ∈ [brokenScript, cleanData] ++ [brokenScript],
        ∃ report, ofReply reply = .ok report) ∧
      (mergeReplies none [brokenScript, cleanData] >>= fun all =>
          mergeReplies none [.built all, brokenScript]) =
        mergeReplies none [brokenScript, cleanData, brokenScript] ∧
      ∃ all same, mergeReplies none [brokenScript, cleanData] = .ok all ∧
        mergeReplies none [cleanData, brokenScript] = .ok same ∧
        ∀ path, all.get? path = same.get? path := by
  have broken : ∃ report, ofReply brokenScript = .ok report := ⟨_, rfl⟩
  have clean : ∃ report, ofReply cleanData = .ok report := ⟨_, rfl⟩
  have readable : ∀ reply ∈ [brokenScript, cleanData] ++ [brokenScript],
      ∃ report, ofReply reply = .ok report := by
    simp only [List.cons_append, List.nil_append, List.forall_mem_cons]
    exact ⟨broken, clean, broken, by simp⟩
  obtain ⟨parts, -, -, orders⟩ := mergeReplies_regroups none readable
  refine ⟨readable, parts, ?_⟩
  rcases orders [cleanData, brokenScript] (.swap _ _ _) with ⟨path, -, conflict, -⟩ | same
  · have merges : (mergeReplies none [brokenScript, cleanData]).isOk = true := by decide +kernel
    rw [conflict] at merges
    contradiction
  · exact same

end Report

end Baseline
