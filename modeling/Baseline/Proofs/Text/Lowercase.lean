import Baseline.Proofs.Text.Pieces
import Baseline.Text.Lowercase

/-!
# Lower forms piece by piece

The lower form of a character depends on what stands around it for a capital sigma alone. A slash is
its own lower form and ends the word before it, as other marks do. So the lower form of a text is
that of its pieces, and punctuation is in the lower form only where it is in the text.
-/

namespace Baseline.Text

open Property

variable {c mark : Char} {cs first second : List Char}

/-- Runs of characters with a lower form have it above the ASCII punctuation, and it is a
character. -/
theorem image_of_mem_lowerRuns {start last stride image n : Nat}
    (member : (start, last, stride, image) ∈ lowerRuns) (low : start ≤ n) (high : n ≤ last) :
    0x61 ≤ image ∧ (image + (n - start)).isValidChar := by
  have all : ∀ run ∈ lowerRuns, 0x61 ≤ run.2.2.2 ∧
      (run.2.2.2 + (run.2.1 - run.1) < 0xd800 ∨
        0xdfff < run.2.2.2 ∧ run.2.2.2 + (run.2.1 - run.1) < 0x110000) := by
    decide +kernel
  obtain ⟨letter, valid⟩ := all _ member
  refine ⟨letter, ?_⟩
  unfold Nat.isValidChar
  dsimp only at valid
  omega

/-- A character that has another lower form has a letter for it. -/
theorem lowerChar_eq_or_le (c : Char) : lowerChar c = c ∨ 0x61 ≤ (lowerChar c).toNat := by
  unfold lowerChar
  split
  next ascii =>
    have all : ∀ n < 0x80, (Char.ofNat n).toLower = Char.ofNat n ∨
        0x61 ≤ (Char.ofNat n).toLower.toNat := by
      decide +kernel
    simpa using all c.toNat ascii
  next =>
    split
    next start last stride image found =>
      have met := List.find?_some found
      simp only [Bool.and_eq_true, decide_eq_true_iff] at met
      obtain ⟨letter, valid⟩ := image_of_mem_lowerRuns (List.mem_of_find?_eq_some found) met.1.1
        met.1.2
      refine .inr ?_
      have value : (Char.ofNat (image + (c.toNat - start))).toNat = image + (c.toNat - start) := by
        rw [Char.ofNat, dif_pos valid]
        rfl
      omega
    next => exact .inl rfl

/-! ## Lower forms where they stand -/

/-- Whether a cased character was read last, after one more character. Case-ignorable ones do not
count. -/
def casedAfter (afterCased : Bool) (c : Char) : Bool :=
  if isCaseIgnorable c then afterCased else isCased c

/-- The lower form of a character that stands after a cased character or not, before a text. -/
def formAt (afterCased : Bool) (c : Char) (rest : List Char) : List Char :=
  if c = 'İ' then ['i', '\u0307']
  else if c = 'Σ' then [if afterCased && !followedByCased rest then 'ς' else 'σ']
  else [lowerChar c]

theorem lowerFrom_cons (afterCased : Bool) (c : Char) (rest : List Char) :
    lowerFrom afterCased (c :: rest) =
      formAt afterCased c rest ++ lowerFrom (casedAfter afterCased c) rest := by
  rw [lowerFrom, formAt, casedAfter]
  simp only [beq_iff_eq]
  split
  · rfl
  · split <;> rfl

theorem followedByCased_cons (c : Char) (cs : List Char) :
    followedByCased (c :: cs) = if isCaseIgnorable c then followedByCased cs else isCased c := by
  unfold followedByCased
  rw [List.dropWhile_cons]
  cases isCaseIgnorable c <;> rfl

/-- The characters that one other than the dotted capital I may have for a lower form. -/
def forms (c : Char) : List Char :=
  if c = 'Σ' then ['σ', 'ς'] else [lowerChar c]

theorem exists_formAt (single : c ≠ 'İ') (afterCased : Bool) (rest : List Char) :
    ∃ form ∈ forms c, formAt afterCased c rest = [form] := by
  rw [formAt, if_neg single, forms]
  by_cases sigma : c = 'Σ'
  · rw [if_pos sigma, if_pos sigma]
    split <;> simp
  · simp [sigma]

/-- A form below the letters is the character itself. -/
theorem eq_of_mem_formAt {afterCased : Bool} {rest : List Char} (low : mark.toNat < 0x61)
    (member : mark ∈ formAt afterCased c rest) : mark = c := by
  have apart : ∀ letter : Char, 0x61 ≤ letter.toNat → mark ≠ letter := by
    rintro letter high rfl
    omega
  rw [formAt] at member
  split at member
  · simp [apart 'i' (by decide), apart '\u0307' (by decide)] at member
  · split at member
    · split at member
      · exact (apart 'ς' (by decide) (List.mem_singleton.mp member)).elim
      · exact (apart 'σ' (by decide) (List.mem_singleton.mp member)).elim
    · rw [List.mem_singleton] at member
      rcases lowerChar_eq_or_le c with same | letter
      · rw [member, same]
      · exact (apart _ letter member).elim

theorem formAt_ne_nil (afterCased : Bool) (c : Char) (rest : List Char) :
    formAt afterCased c rest ≠ [] := by
  rw [formAt]
  split
  · simp
  · split <;> simp

/-- What is in a lower form and is no letter is in the text. -/
theorem mem_of_mem_lowerFrom {afterCased : Bool} (low : mark.toNat < 0x61)
    (member : mark ∈ lowerFrom afterCased cs) : mark ∈ cs := by
  induction cs generalizing afterCased with
  | nil => exact member
  | cons c cs induction =>
      rw [lowerFrom_cons] at member
      rcases List.mem_append.mp member with here | later
      · rw [eq_of_mem_formAt low here]
        exact List.mem_cons_self
      · exact List.mem_cons_of_mem _ (induction later)

/-- A lower form below the letters is the text itself. -/
theorem lowerFrom_eq_self {afterCased : Bool}
    (low : ∀ mark ∈ lowerFrom afterCased cs, mark.toNat < 0x61) :
    lowerFrom afterCased cs = cs := by
  induction cs generalizing afterCased with
  | nil => rfl
  | cons c cs induction =>
      rw [lowerFrom_cons] at low ⊢
      obtain ⟨here, later⟩ := List.forall_mem_append.mp low
      have single : c ≠ 'İ' := by
        rintro rfl
        exact absurd (here 'i' (by simp [formAt])) (by decide)
      obtain ⟨form, -, only⟩ := exists_formAt single afterCased cs
      have member : form ∈ formAt afterCased c cs := by simp [only]
      rw [induction later, only, eq_of_mem_formAt (here form member) member]
      rfl

/-- The lower form of the end of a text depends on what stands before only by the last cased
character. -/
theorem exists_lowerFrom_append (afterCased : Bool) (first second : List Char) :
    ∃ before state, lowerFrom afterCased (first ++ second) = before ++ lowerFrom state second := by
  induction first generalizing afterCased with
  | nil => exact ⟨[], afterCased, rfl⟩
  | cons c first induction =>
      obtain ⟨before, state, lowered⟩ := induction (casedAfter afterCased c)
      rw [List.cons_append, lowerFrom_cons, lowered, ← List.append_assoc]
      exact ⟨_, state, rfl⟩

/-! ## Letter by letter -/

/-- The lower form of the character is one character, wherever it stands. -/
def HasOneForm (c : Char) : Prop :=
  c ≠ 'İ' ∧ c ≠ 'Σ'

instance (c : Char) : Decidable (HasOneForm c) :=
  inferInstanceAs (Decidable (_ ∧ _))

theorem HasOneForm.formAt_eq (single : HasOneForm c) (afterCased : Bool) (rest : List Char) :
    formAt afterCased c rest = [lowerChar c] := by
  rw [formAt, if_neg single.1, if_neg single.2]

theorem HasOneForm.forms_eq (single : HasOneForm c) : forms c = [lowerChar c] :=
  if_neg single.2

theorem lowerFrom_eq_map (single : ∀ c ∈ cs, HasOneForm c) (afterCased : Bool) :
    lowerFrom afterCased cs = cs.map lowerChar := by
  induction cs generalizing afterCased with
  | nil => rfl
  | cons c cs induction =>
      obtain ⟨here, later⟩ := List.forall_mem_cons.mp single
      rw [lowerFrom_cons, here.formAt_eq, induction later]
      rfl

theorem HasOneForm.mem_lowerFrom (single : HasOneForm c) (member : c ∈ cs) (afterCased : Bool) :
    lowerChar c ∈ lowerFrom afterCased cs := by
  induction cs generalizing afterCased with
  | nil => cases member
  | cons d cs induction =>
      rw [lowerFrom_cons]
      rcases List.mem_cons.mp member with rfl | member
      · rw [single.formAt_eq]
        exact List.mem_cons_self
      · exact List.mem_append_right _ (induction member _)

/-! ## Marks -/

/-- Punctuation that has no case, ends the word before it and is its own lower form. -/
structure IsMark (mark : Char) : Prop where
  ends : isCaseIgnorable mark = false
  uncased : isCased mark = false
  same : lowerChar mark = mark

theorem isMark_slash : IsMark '/' := by
  constructor <;> decide +kernel

theorem IsMark.formAt_eq (isMark : IsMark mark) (afterCased : Bool) (rest : List Char) :
    formAt afterCased mark rest = [mark] := by
  have capital : mark ≠ 'İ' ∧ mark ≠ 'Σ' := by
    have cased : isCased 'İ' = true ∧ isCased 'Σ' = true := by decide +kernel
    constructor <;> rintro rfl
    · exact Bool.noConfusion (cased.1.symm.trans isMark.uncased)
    · exact Bool.noConfusion (cased.2.symm.trans isMark.uncased)
  rw [formAt, if_neg capital.1, if_neg capital.2, isMark.same]

theorem IsMark.casedAfter_eq (isMark : IsMark mark) (afterCased : Bool) :
    casedAfter afterCased mark = false := by
  rw [casedAfter, isMark.ends, if_neg Bool.false_ne_true, isMark.uncased]

theorem IsMark.lowerFrom_cons (isMark : IsMark mark) (afterCased : Bool) (cs : List Char) :
    lowerFrom afterCased (mark :: cs) = mark :: lower cs := by
  rw [Text.lowerFrom_cons, isMark.formAt_eq, isMark.casedAfter_eq]
  rfl

theorem IsMark.followedByCased_append (isMark : IsMark mark) (first second : List Char) :
    followedByCased (first ++ mark :: second) = followedByCased first := by
  induction first with
  | nil =>
      rw [List.nil_append, followedByCased_cons, isMark.ends, if_neg Bool.false_ne_true,
        isMark.uncased]
      rfl
  | cons c first induction =>
      rw [List.cons_append, followedByCased_cons, followedByCased_cons, induction]

theorem IsMark.formAt_append (isMark : IsMark mark) (afterCased : Bool) (c : Char)
    (first second : List Char) :
    formAt afterCased c (first ++ mark :: second) = formAt afterCased c first := by
  rw [formAt, formAt, isMark.followedByCased_append]

/-- A mark parts the lower form of a text as it parts the text. -/
theorem IsMark.lowerFrom_append (isMark : IsMark mark) (afterCased : Bool)
    (first second : List Char) :
    lowerFrom afterCased (first ++ mark :: second) =
      lowerFrom afterCased first ++ mark :: lower second := by
  induction first generalizing afterCased with
  | nil => exact isMark.lowerFrom_cons afterCased second
  | cons c first induction =>
      rw [List.cons_append, Text.lowerFrom_cons, Text.lowerFrom_cons, isMark.formAt_append,
        induction, List.append_assoc]

/-- A slash parts the lower form of a text as it parts the text. -/
theorem lower_append_slash (first second : List Char) :
    lower (first ++ '/' :: second) = lower first ++ '/' :: lower second :=
  isMark_slash.lowerFrom_append false first second

/-- The pieces of a lower form between slashes are the lower forms of the pieces. -/
theorem pieces_lower (cs : List Char) : pieces '/' (lower cs) = (pieces '/' cs).map lower := by
  have single {cs : List Char} (whole : '/' ∉ cs) :
      pieces '/' (lower cs) = (pieces '/' cs).map lower := by
    have lowered : '/' ∉ lower cs := fun member => whole (mem_of_mem_lowerFrom (by decide) member)
    rw [pieces_of_not_mem whole, pieces_of_not_mem lowered]
    rfl
  by_cases slash : '/' ∈ cs
  · obtain ⟨first, second, parted, whole⟩ := List.eq_append_cons_of_mem slash
    have shorter : second.length < cs.length := by
      rw [parted, List.length_append, List.length_cons]
      omega
    rw [parted, lower_append_slash, pieces_append_cons, pieces_append_cons, List.map_append,
      single whole, pieces_lower second]
  · exact single slash
termination_by cs.length
decreasing_by exact shorter

end Baseline.Text
