import Baseline.Number.Reading
import Mathlib.Tactic.IntervalCases

/-!
# Digits are read back

The digits of a number, written in a base up to sixteen, spell that number. An integer that is short
enough to be shown is the one that its text denotes.
-/

namespace Baseline.Number

variable {base n value : Nat} {values : List Nat}

/-- Values are the digits of a number in a base, the first one first. -/
structure Spells (base : Nat) (values : List Nat) (n : Nat) : Prop where
  written : Nat.toDigits base n = values.map Nat.digitChar
  bounded : ∀ value ∈ values, value < base
  number : ofDigits base values = n

theorem ofDigits_append_singleton :
    ofDigits base (values ++ [value]) = ofDigits base values * base + value := by
  simp [ofDigits]

/-- Zeros before the digits of a number do not count. -/
theorem ofDigits_replicate_append (count : Nat) :
    ofDigits base (List.replicate count 0 ++ values) = ofDigits base values := by
  induction count with
  | zero => rfl
  | succ count induction =>
      rw [← induction]
      simp [ofDigits, List.replicate_succ]

theorem exists_spells (two_le : 1 < base) (n : Nat) : ∃ values, Spells base values n := by
  induction n using Nat.strongRecOn with
  | ind n induction =>
      rcases Nat.lt_or_ge n base with short | long
      · refine ⟨[n], Nat.toDigits_of_lt_base short, by simpa using short, ?_⟩
        simp [ofDigits]
      · have fewer : n / base < n := Nat.div_lt_self (by omega) two_le
        obtain ⟨values, written, bounded, number⟩ := induction _ fewer
        have below : n % base < base := Nat.mod_lt _ (by omega)
        refine ⟨values ++ [n % base], ?_, ?_, ?_⟩
        · rw [Nat.toDigits_of_base_le two_le long, written]
          simp
        · intro value member
          rcases List.mem_append.mp member with earlier | last
          · exact bounded value earlier
          · rw [List.mem_singleton.mp last]
            exact below
        · rw [ofDigits_append_singleton, number, Nat.div_add_mod']

/-- Only the number zero starts with the digit zero. -/
theorem head?_toDigits (two_le : 1 < base) (positive : 0 < n) :
    (Nat.toDigits base n).head? ≠ some '0' := by
  induction n using Nat.strongRecOn with
  | ind n induction =>
      rcases Nat.lt_or_ge n base with short | long
      · rw [Nat.toDigits_of_lt_base short]
        simp only [List.head?_cons, ne_eq, Option.some.injEq, Nat.digitChar_eq_zero]
        omega
      · have fewer : n / base < n := Nat.div_lt_self positive two_le
        have first := induction _ fewer (Nat.div_pos long (by omega))
        cases digits : Nat.toDigits base (n / base) with
        | nil => exact (Nat.toDigits_ne_nil digits).elim
        | cons c rest =>
            rw [digits] at first
            rw [Nat.toDigits_of_base_le two_le long, digits]
            exact first

theorem Spells.length_eq (spells : Spells base values n) :
    values.length = (Nat.toDigits base n).length := by
  rw [spells.written, List.length_map]

theorem Spells.ne_nil (spells : Spells base values n) : values ≠ [] := by
  rintro rfl
  exact Nat.toDigits_ne_nil spells.written

theorem digit?_digitChar (small : base ≤ 16) (below : value < base) :
    digit? base (Nat.digitChar value) = some value := by
  have bounded : value < 16 := by omega
  interval_cases value <;> simp [digit?, Nat.digitChar, below]

theorem digitRun_map_digitChar (small : base ≤ 16) (bounded : ∀ value ∈ values, value < base)
    (afterDigit : Bool) :
    digitRun base afterDigit (values.map Nat.digitChar) = some (values, []) := by
  induction values generalizing afterDigit with
  | nil => rfl
  | cons value values induction =>
      rw [List.forall_mem_cons] at bounded
      have letter : Nat.digitChar value ≠ '_' := Nat.digitChar_ne '_' rfl
      rw [List.map_cons, digitRun.eq_4]
      · rw [digit?_digitChar small bounded.1]
        simp [induction bounded.2]
      · intro c rest marked
        exact (letter marked).elim
      · intro marked
        exact (letter marked).elim

/-- The characters of an integer are its sign and its digits. -/
theorem toList_toString (n : Int) :
    (toString n).toList = (if n < 0 then ['-'] else []) ++ Nat.toDigits 10 n.natAbs := by
  rw [Int.toString_eq_repr, Int.repr_eq_if]
  rcases Int.lt_or_le n 0 with negative | natural
  · have size : (-n).toNat = n.natAbs := by omega
    rw [if_neg (by omega), if_pos negative, size]
    simp [Nat.repr_eq_ofList_toDigits]
  · have size : n.toNat = n.natAbs := by omega
    rw [if_pos natural, if_neg (by omega), size]
    simp [Nat.repr_eq_ofList_toDigits]

theorem isDigit_of_mem_toDigits {c : Char} (member : c ∈ Nat.toDigits 10 n) : c.isDigit = true :=
  Nat.isDigit_of_mem_toDigits (by omega) (by omega) member

theorem toNat_of_isDigit {c : Char} (digit : c.isDigit = true) :
    0x30 ≤ c.toNat ∧ c.toNat ≤ 0x39 := by
  obtain ⟨low, high⟩ := Char.isDigit_iff_toNat.mp digit
  exact ⟨low, high⟩

theorem plain_of_forall_lt {cs : List Char} (ascii : ∀ c ∈ cs, c.toNat < 0x7f) :
    plain cs = cs := by
  rw [plain]
  conv_rhs => rw [← List.map_id cs]
  apply List.map_congr_left
  intro c member
  simp [ascii c member]

/-- No mark may stand before decimal digits. -/
theorem withoutBaseMark_ten (cs : List Char) : withoutBaseMark 10 cs = cs := by
  fun_cases withoutBaseMark 10 cs <;> simp_all [basePrefixes]

/-- The text of an integer is its sign and then its digits. -/
theorem signed_toString (n : Int) :
    signed ((plain (toString n).toList).dropWhile isSpace) =
      (decide (n < 0), Nat.toDigits 10 n.natAbs) := by
  obtain ⟨c, rest, digits⟩ := List.exists_cons_of_ne_nil (@Nat.toDigits_ne_nil n.natAbs 10)
  have bounds {d : Char} (member : d ∈ c :: rest) : 0x30 ≤ d.toNat ∧ d.toNat ≤ 0x39 := by
    rw [← digits] at member
    exact toNat_of_isDigit (isDigit_of_mem_toDigits member)
  have ascii : plain (toString n).toList = (toString n).toList := by
    apply plain_of_forall_lt
    rw [toList_toString, digits]
    intro d member
    rcases List.mem_append.mp member with sign | digit
    · split at sign
      · rw [List.mem_singleton.mp sign]
        decide
      · contradiction
    · have := bounds digit
      omega
  obtain ⟨low, high⟩ := bounds List.mem_cons_self
  have minus : c ≠ '-' := by
    rintro rfl
    contradiction
  have plus : c ≠ '+' := by
    rintro rfl
    contradiction
  have inked : isSpace c = false := by
    have blank : c ≠ ' ' := by
      rintro rfl
      contradiction
    simp [isSpace, blank]
    omega
  rw [ascii, toList_toString, digits]
  by_cases negative : n < 0
  · simp [negative, isSpace, signed]
  · simp [negative, inked, signed, minus, plus]

theorem tenTo_eq (exponent : Nat) : tenTo exponent = 10 ^ exponent := rfl

theorem isShowable_iff {n : Int} : isShowable n = true ↔ n.natAbs < 10 ^ digitLimit := by
  rw [isShowable, tenTo_eq, decide_eq_true_iff]

/-- An integer that can be shown is read from its text. -/
theorem readInteger_toString {n : Int} (showable : isShowable n = true) :
    readInteger 10 (toString n) = .ok n := by
  obtain ⟨values, spells⟩ := @exists_spells 10 (by omega) n.natAbs
  have few : values.length ≤ digitLimit := by
    rw [spells.length_eq, Nat.length_toDigits_le_iff (by omega) (by decide)]
    exact isShowable_iff.mp showable
  have run : digitRun 10 false (Nat.toDigits 10 n.natAbs) = some (values, []) := by
    rw [spells.written]
    exact digitRun_map_digitChar (by omega) spells.bounded false
  have value : (if n < 0 then -(n.natAbs : Int) else n.natAbs) = n := by omega
  simp only [readInteger, signed_toString, withoutBaseMark_ten, run, spells.number]
  rw [if_neg (by simpa using spells.ne_nil), if_neg (by simpa using few), if_pos (by simp)]
  simp only [decide_eq_true_eq, value]

end Baseline.Number
