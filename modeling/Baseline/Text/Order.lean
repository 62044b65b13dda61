/-!
# Order of texts

Texts are ordered by their code points.
-/

namespace Baseline.Text

/-- Texts in order, repeated ones kept. -/
def sorted (texts : List String) : List String :=
  texts.mergeSort fun a b => decide (a ≤ b)

/-- Texts in order, each once. -/
def sortedDistinct (texts : List String) : List String :=
  (sorted texts).eraseDups

@[simp] theorem mem_sorted {s : String} {texts : List String} : s ∈ sorted texts ↔ s ∈ texts :=
  List.mem_mergeSort

@[simp] theorem mem_sortedDistinct {s : String} {texts : List String} :
    s ∈ sortedDistinct texts ↔ s ∈ texts := by
  simp [sortedDistinct]

end Baseline.Text
