import Baseline.Text.Blank
import Baseline.Text.Property.Word
import Mathlib.Data.List.DropRight
import Mathlib.Data.List.TakeWhile

/-!
# Blanks before other characters

Trimming takes away the blanks before the first other character. No blank is a word character.
-/

namespace Baseline.Text

variable {c : Char} {cs rest : List Char}

/-- All characters of a text are blanks. -/
def AreBlank (cs : List Char) : Prop := ∀ c ∈ cs, isBlank c = true

@[simp] theorem trimLeft_trimLeft (cs : List Char) : trimLeft (trimLeft cs) = trimLeft cs :=
  List.dropWhile_idempotent isBlank cs

/-- What trimming leaves starts with another character exactly if that follows blanks. -/
theorem trimLeft_eq_cons_iff (other : isBlank c = false) :
    trimLeft cs = c :: rest ↔ ∃ blanks, AreBlank blanks ∧ cs = blanks ++ c :: rest := by
  constructor
  · intro trimmed
    refine ⟨cs.takeWhile isBlank, fun _ => List.mem_takeWhile_imp, ?_⟩
    rw [← trimmed, trimLeft, List.takeWhile_append_dropWhile]
  · rintro ⟨blanks, blank, rfl⟩
    rw [trimLeft, List.dropWhile_append_of_pos blank]
    exact List.dropWhile_cons_of_neg (by simp [other])

/-- The code points of the blanks. -/
def blankCodes : List Nat :=
  [0x09, 0x0a, 0x0b, 0x0c, 0x0d, 0x1c, 0x1d, 0x1e, 0x1f, 0x20, 0x85, 0xa0, 0x1680, 0x2000, 0x2001,
    0x2002, 0x2003, 0x2004, 0x2005, 0x2006, 0x2007, 0x2008, 0x2009, 0x200a, 0x2028, 0x2029, 0x202f,
    0x205f, 0x3000]

theorem toNat_mem_blankCodes (blank : isBlank c = true) : c.toNat ∈ blankCodes := by
  simp only [isBlank, Bool.or_eq_true, Bool.and_eq_true, decide_eq_true_eq, beq_iff_eq] at blank
  simp only [blankCodes, List.mem_cons, List.not_mem_nil, or_false]
  omega

theorem isWord_of_isBlank (blank : isBlank c = true) : Property.isWord c = false := by
  have none : ∀ n ∈ blankCodes, Property.isWord (Char.ofNat n) = false := by decide +kernel
  rw [← Char.ofNat_toNat c]
  exact none _ (toNat_mem_blankCodes blank)

end Baseline.Text
