import Baseline.Text.Order
import Mathlib.Data.List.Basic

/-!
# Texts in order

Texts that are sorted, each once, stand in ascending order.
-/

namespace Baseline.Text

theorem eraseDups_sublist : (texts : List String) → texts.eraseDups.Sublist texts
  | [] => by simp
  | text :: texts => by
      rw [List.eraseDups_cons]
      exact ((eraseDups_sublist _).trans List.filter_sublist).cons_cons text
termination_by texts => texts.length
decreasing_by exact Nat.lt_succ_of_le (List.length_filter_le _ _)

theorem nodup_eraseDups : (texts : List String) → texts.eraseDups.Nodup
  | [] => by simp
  | text :: texts => by
      rw [List.eraseDups_cons, List.nodup_cons, List.mem_eraseDups]
      exact ⟨by simp, nodup_eraseDups _⟩
termination_by texts => texts.length
decreasing_by exact Nat.lt_succ_of_le (List.length_filter_le _ _)

theorem nodup_sortedDistinct (texts : List String) : (sortedDistinct texts).Nodup :=
  nodup_eraseDups _

theorem pairwise_sorted (texts : List String) : (sorted texts).Pairwise (· ≤ ·) := by
  have total : ∀ a b : String, (decide (a ≤ b) || decide (b ≤ a)) = true := by
    intro a b
    simpa using String.le_total a b
  have transitive : ∀ a b c : String, decide (a ≤ b) = true → decide (b ≤ c) = true →
      decide (a ≤ c) = true := by
    intro a b c first second
    rw [decide_eq_true_eq] at first second ⊢
    exact String.le_trans first second
  exact (List.pairwise_mergeSort transitive total texts).imp of_decide_eq_true

/-- Texts in order are what sorting makes of them, in whatever order they are given. -/
theorem sorted_eq {texts ordered : List String} (perm : texts.Perm ordered)
    (ascending : ordered.Pairwise (· ≤ ·)) : sorted texts = ordered :=
  ((List.mergeSort_perm _ _).trans perm).eq_of_pairwise (fun _ _ _ _ => String.le_antisymm)
    (pairwise_sorted _) ascending

theorem sorted_eq_of_perm {texts others : List String} (perm : texts.Perm others) :
    sorted texts = sorted others :=
  sorted_eq (perm.trans (List.mergeSort_perm _ _).symm) (pairwise_sorted _)

theorem pairwise_sortedDistinct (texts : List String) :
    (sortedDistinct texts).Pairwise (· < ·) := by
  have ordered : (sortedDistinct texts).Pairwise (· ≤ ·) :=
    (pairwise_sorted texts).sublist (eraseDups_sublist _)
  refine ordered.imp₂ ?_ (nodup_sortedDistinct texts)
  intro a b least differs
  rw [← String.not_le]
  intro most
  exact differs (String.le_antisymm least most)

end Baseline.Text
