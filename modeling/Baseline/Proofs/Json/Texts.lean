import Baseline.Json.Reading
import Baseline.Json.Writing
import Baseline.Proofs.Number.Digits

/-!
# Texts in JSON are read back

What is written within quotes for a text is read as that text, whichever characters it has: those
that are escaped by a letter, by one number or by a pair of numbers, and those that stand for
themselves.
-/

namespace Baseline.Json

open Number (Spells digit? ofDigits)

variable {n start position : Nat} {done cs rest : List Char} {c : Char}

/-! ## Numbers of four digits -/

/-- The digits of a number escape. -/
def quad (n : Nat) : List Char :=
  List.replicate (4 - (Nat.toDigits 16 n).length) '0' ++ Nat.toDigits 16 n

theorem escapeUnit_eq (n : Nat) : escapeUnit n = '\\' :: 'u' :: quad n := rfl

theorem length_toDigits_sixteen_le (small : n < 0x10000) : (Nat.toDigits 16 n).length ≤ 4 :=
  (Nat.length_toDigits_le_iff (by omega) (by omega)).mpr small

theorem length_quad (small : n < 0x10000) : (quad n).length = 4 := by
  have short := length_toDigits_sixteen_le small
  rw [quad, List.length_append, List.length_replicate]
  omega

/-- The digits are those of the number after zeros. -/
theorem exists_quad (n : Nat) :
    ∃ values, quad n = values.map Nat.digitChar ∧ (∀ value ∈ values, value < 16) ∧
      ofDigits 16 values = n := by
  obtain ⟨values, written, bounded, number⟩ := @Number.exists_spells 16 (by omega) n
  refine ⟨List.replicate (4 - (Nat.toDigits 16 n).length) 0 ++ values, ?_, ?_, ?_⟩
  · rw [quad, written, List.map_append, List.map_replicate]
    rfl
  · intro value member
    rcases List.mem_append.mp member with zero | digit
    · rw [List.eq_of_mem_replicate zero]
      omega
    · exact bounded value digit
  · rw [Number.ofDigits_replicate_append, number]

theorem hexQuad?_quad (small : n < 0x10000) (rest : List Char) :
    hexQuad? (quad n ++ rest) = some n := by
  obtain ⟨values, written, bounded, number⟩ := exists_quad n
  have taken : (quad n ++ rest).take 4 = quad n := List.take_left' (length_quad small)
  have digits : (quad n).map (digit? 16) = values.map some := by
    rw [written, List.map_map]
    apply List.map_congr_left
    intro value member
    exact Number.digit?_digitChar (by omega) (bounded value member)
  have four : values.length = 4 := by
    rw [← length_quad small, written, List.length_map]
  have whole : (values.map some).mapM id = some values := by
    rw [List.mapM_map, show id ∘ some = fun value : Nat => (pure (id value) : Option Nat) from rfl,
      List.mapM_pure, List.map_id]
    rfl
  rw [hexQuad?, taken, digits]
  simp [four, whole, number]

theorem getElem?_quad_append (small : n < 0x10000) (c : Char) (rest : List Char) :
    (quad n ++ c :: rest)[4]? = some c := by
  rw [List.getElem?_append_right (length_quad small).le, length_quad small]
  rfl

/-! ## Number escapes -/

theorem unicodeEscape_quad (small : n < 0x10000) (whole : n < 0xd800 ∨ 0xdfff < n)
    (rest_ne : rest ≠ []) :
    unicodeEscape ⟨quad n ++ rest, position⟩ = .ok (Char.ofNat n, 4) := by
  obtain ⟨c, rest, rfl⟩ := List.exists_cons_of_ne_nil rest_ne
  have alone : isHighHalf n = false := by
    simp only [isHighHalf, Bool.and_eq_false_iff, decide_eq_false_iff_not]
    omega
  have shown : (decide (n < 0xd800) || decide (0xdfff < n)) = true := by
    simpa using whole
  simp only [unicodeEscape, getElem?_quad_append small, hexQuad?_quad small, alone, shown, if_true]

/-- A pair of numbers stands for one character. -/
theorem unicodeEscape_pair (small : n < 0x100000) (rest_ne : rest ≠ []) :
    unicodeEscape ⟨quad (0xd800 + n / 0x400) ++ escapeUnit (0xdc00 + n % 0x400) ++ rest, position⟩ =
      .ok (Char.ofNat (0x10000 + n), 10) := by
  obtain ⟨c, rest, rfl⟩ := List.exists_cons_of_ne_nil rest_ne
  have firstSmall : 0xd800 + n / 0x400 < 0x10000 := by omega
  have secondSmall : 0xdc00 + n % 0x400 < 0x10000 := by omega
  have high : isHighHalf (0xd800 + n / 0x400) = true := by
    simp only [isHighHalf, Bool.and_eq_true, decide_eq_true_eq]
    omega
  have low : isLowHalf (0xdc00 + n % 0x400) = true := by
    simp only [isLowHalf, Bool.and_eq_true, decide_eq_true_eq]
    omega
  have number : 0x10000 + (0xd800 + n / 0x400 - 0xd800) * 0x400 +
      (0xdc00 + n % 0x400 - 0xdc00) = 0x10000 + n := by omega
  have after : (quad (0xd800 + n / 0x400) ++
      ('\\' :: 'u' :: quad (0xdc00 + n % 0x400) ++ c :: rest)).drop 4 =
        '\\' :: 'u' :: (quad (0xdc00 + n % 0x400) ++ c :: rest) :=
    List.drop_left' (length_quad firstSmall)
  have next : (quad (0xd800 + n / 0x400) ++
      ('\\' :: 'u' :: quad (0xdc00 + n % 0x400) ++ c :: rest))[4]? = some '\\' :=
    getElem?_quad_append firstSmall _ _
  rw [List.append_assoc, escapeUnit_eq]
  simp only [unicodeEscape, after, next, hexQuad?_quad firstSmall]
  rw [high]
  simp only [getElem?_quad_append secondSmall, hexQuad?_quad secondSmall, low, number,
    Option.isSome_some, if_true]

/-! ## Characters -/

/-- A character of ASCII that can be seen, or a space. -/
def IsPlain (c : Char) : Prop := 0x20 ≤ c.toNat ∧ c.toNat < 0x7f

instance (c : Char) : Decidable (IsPlain c) :=
  inferInstanceAs (Decidable (_ ∧ _))

/-- A character is escaped by a letter, stands for itself, or is escaped by one number or two. -/
inductive Escape (c : Char) : List Char → Prop where
  | letter {letter : Char} : IsPlain letter → letter ≠ 'u' → simpleEscape? letter = some c →
      Escape c ['\\', letter]
  | itself : IsPlain c → c ≠ '"' → c ≠ '\\' → Escape c [c]
  | number : c.toNat < 0x10000 → Escape c (escapeUnit c.toNat)
  | pair {n : Nat} : n < 0x100000 → c.toNat = 0x10000 + n →
      Escape c (escapeUnit (0xd800 + n / 0x400) ++ escapeUnit (0xdc00 + n % 0x400))

/-- The characters that are escaped by a letter. -/
def lettered : List Char := ['"', '\\', '\n', '\r', '\t', '\x08', '\x0c']

theorem escape_of_mem_lettered (member : c ∈ lettered) : Escape c (escaped c) := by
  simp only [lettered, List.mem_cons, List.not_mem_nil, or_false] at member
  rcases member with rfl | rfl | rfl | rfl | rfl | rfl | rfl <;>
    exact .letter (by decide) (by decide) rfl

theorem toNat_cases (c : Char) :
    c.toNat < 0xd800 ∨ 0xdfff < c.toNat ∧ c.toNat < 0x110000 := c.valid

theorem escape_escaped (c : Char) : Escape c (escaped c) := by
  by_cases special : c ∈ lettered
  · exact escape_of_mem_lettered special
  · simp only [lettered, List.mem_cons, List.not_mem_nil, or_false, not_or] at special
    obtain ⟨quote, backslash, feed, ret, tab, back, page⟩ := special
    simp only [escaped, beq_iff_eq, quote, backslash, feed, ret, tab, back, page, if_false]
    split
    · rename_i plain
      simp only [Bool.and_eq_true, decide_eq_true_eq] at plain
      exact .itself ⟨plain.1, by omega⟩ quote backslash
    split
    · rename_i small
      exact .number small
    · have scalar := toNat_cases c
      exact .pair (by omega) (by omega)

theorem isPlain_of_mem_quad (member : c ∈ quad n) : IsPlain c := by
  obtain ⟨values, written, bounded, -⟩ := exists_quad n
  rw [written] at member
  obtain ⟨value, listed, rfl⟩ := List.mem_map.mp member
  have plain : ∀ value < 16, IsPlain (Nat.digitChar value) := by decide
  exact plain value (bounded value listed)

/-! ## Texts -/

/-- What belongs to an escape that has been read is passed over. -/
theorem readText_skip (skipped : List Char) :
    readText start skipped.length position done (skipped ++ rest) =
      readText start 0 (position + skipped.length) done rest := by
  induction skipped generalizing position with
  | nil => rfl
  | cons c skipped induction =>
      rw [List.length_cons, List.cons_append, readText, induction]
      congr 1
      omega

theorem readText_number {digits : List Char}
    (read : unicodeEscape ⟨digits ++ rest, position + 2⟩ = .ok (c, digits.length)) :
    readText start 0 position done ('\\' :: 'u' :: digits ++ rest) =
      readText start 0 (position + 1 + (digits.length + 1)) (c :: done) rest := by
  have passed := @readText_skip start (position + 1) (c :: done) rest ('u' :: digits)
  rw [List.cons_append, List.cons_append, readText]
  simpa [read] using passed

/-- A character is read from its escape. -/
theorem Escape.readText {spelled : List Char} (escape : Escape c spelled) (start position : Nat)
    (done : List Char) (rest_ne : rest ≠ []) :
    ∃ next, readText start 0 position done (spelled ++ rest) =
      Json.readText start 0 next (c :: done) rest := by
  cases escape with
  | @letter letter plain differs read =>
      refine ⟨position + 1 + 1, ?_⟩
      have passed := @readText_skip start (position + 1) (c :: done) rest [letter]
      rw [List.cons_append, List.cons_append, Json.readText]
      · simpa [read] using passed
      · exact differs
  | itself plain quote backslash =>
      refine ⟨position + 1, ?_⟩
      have visible : ¬c.toNat ≤ 0x1f := by
        have := plain.1
        omega
      rw [List.cons_append, Json.readText.eq_def]
      simp [quote, backslash, visible]
  | number small =>
      refine ⟨position + 1 + (4 + 1), ?_⟩
      have scalar := toNat_cases c
      have read := @unicodeEscape_quad c.toNat (position + 2) rest small (by omega) rest_ne
      rw [Char.ofNat_toNat, ← length_quad small] at read
      rw [escapeUnit_eq, readText_number read, length_quad small]
  | @pair n small number =>
      refine ⟨position + 1 + (10 + 1), ?_⟩
      have read := @unicodeEscape_pair n (position + 2) rest small rest_ne
      have length : (quad (0xd800 + n / 0x400) ++ escapeUnit (0xdc00 + n % 0x400)).length = 10 := by
        rw [escapeUnit_eq, List.length_append, List.length_cons, List.length_cons,
          length_quad (by omega), length_quad (by omega)]
      rw [← number, Char.ofNat_toNat, ← length] at read
      have passed := @readText_number start position done rest c _ read
      rw [length] at passed
      simpa only [escapeUnit_eq, List.cons_append, List.append_assoc] using passed

/-- What is written for a text is read up to its closing quote. -/
theorem readText_flatMap_escaped (start position : Nat) (done cs rest : List Char) :
    ∃ stop, readText start 0 position done (cs.flatMap escaped ++ '"' :: rest) =
      .ok (String.ofList (done.reverse ++ cs), ⟨rest, stop⟩) := by
  induction cs generalizing position done with
  | nil =>
      refine ⟨position + 1, ?_⟩
      rw [List.flatMap_nil, readText.eq_def]
      simp
  | cons c cs induction =>
      have more : cs.flatMap escaped ++ '"' :: rest ≠ [] := by simp
      obtain ⟨next, first⟩ := (escape_escaped c).readText start position done more
      obtain ⟨stop, read⟩ := induction next (c :: done)
      refine ⟨stop, ?_⟩
      rw [List.flatMap_cons, List.append_assoc, first, read]
      simp

/-! ## Bytes -/

theorem Escape.isPlain {spelled : List Char} (escape : Escape c spelled) {d : Char}
    (member : d ∈ spelled) : IsPlain d := by
  have unit {n : Nat} (listed : d ∈ escapeUnit n) : IsPlain d := by
    rw [escapeUnit_eq, List.mem_cons, List.mem_cons] at listed
    rcases listed with rfl | rfl | listed
    · decide
    · decide
    · exact isPlain_of_mem_quad listed
  cases escape with
  | letter plain =>
      rcases List.mem_cons.mp member with rfl | last
      · decide
      · rw [List.mem_singleton.mp last]
        exact plain
  | itself plain =>
      rw [List.mem_singleton.mp member]
      exact plain
  | number => exact unit member
  | pair =>
      rcases List.mem_append.mp member with first | second
      · exact unit first
      · exact unit second

theorem isPlain_of_mem_writeText {s : String} (member : c ∈ writeText s) : IsPlain c := by
  rw [writeText, List.cons_append, List.mem_cons, List.mem_append, List.mem_singleton,
    List.mem_flatMap] at member
  rcases member with rfl | ⟨d, -, listed⟩ | rfl
  · decide
  · exact (escape_escaped d).isPlain listed
  · decide

end Baseline.Json
