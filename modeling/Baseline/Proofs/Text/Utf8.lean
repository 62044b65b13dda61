import Baseline.FileSystem.Access
import Mathlib.Data.List.Basic

/-!
# What bytes spell a text

A character is read from bytes exactly if they start with those that spell it. So strict reading
gives a text exactly of the bytes of this text, and fails on all others. A text without carriage
returns is read from a file as it was written.
-/

namespace Baseline.Text.Utf8

variable {c : Char} {n code width missing skip : Nat} {first second third byte low high : UInt8}
  {bytes tail rest : List UInt8} {cs done : List Char}

/-! ## One character -/

/-- A byte may continue a character. -/
def IsTail (byte : UInt8) : Prop := 0x80 ≤ byte.toNat ∧ byte.toNat ≤ 0xbf

/-- A byte and those after it spell the number of a character. -/
inductive Spells (n : Nat) (a : UInt8) : List UInt8 → Prop where
  | one : n = a.toNat → a.toNat < 0x80 → Spells n a []
  | two {b : UInt8} : n = (a.toNat - 0xc0) * 0x40 + (b.toNat - 0x80) →
      0xc2 ≤ a.toNat → a.toNat < 0xe0 → IsTail b → Spells n a [b]
  | three {b c : UInt8} :
      n = (a.toNat - 0xe0) * 0x1000 + (b.toNat - 0x80) * 0x40 + (c.toNat - 0x80) →
      0xe0 ≤ a.toNat → a.toNat < 0xf0 → IsTail b → IsTail c →
      (a.toNat = 0xe0 → 0xa0 ≤ b.toNat) → (a.toNat = 0xed → b.toNat ≤ 0x9f) → Spells n a [b, c]
  | four {b c d : UInt8} :
      n = (a.toNat - 0xf0) * 0x40000 + (b.toNat - 0x80) * 0x1000 + (c.toNat - 0x80) * 0x40 +
        (d.toNat - 0x80) →
      0xf0 ≤ a.toNat → a.toNat ≤ 0xf4 → IsTail b → IsTail c → IsTail d →
      (a.toNat = 0xf0 → 0x90 ≤ b.toNat) → (a.toNat = 0xf4 → b.toNat ≤ 0x8f) →
      Spells n a [b, c, d]

theorem utf8EncodeChar_eq (c : Char) :
    String.utf8EncodeChar c =
      if c.toNat ≤ 0x7f then [.ofNat c.toNat]
      else if c.toNat ≤ 0x7ff then [.ofNat (c.toNat / 64 % 32 + 192), .ofNat (c.toNat % 64 + 128)]
      else if c.toNat ≤ 0xffff then
        [.ofNat (c.toNat / 4096 % 16 + 224), .ofNat (c.toNat / 64 % 64 + 128),
          .ofNat (c.toNat % 64 + 128)]
      else
        [.ofNat (c.toNat / 262144 % 8 + 240), .ofNat (c.toNat / 4096 % 64 + 128),
          .ofNat (c.toNat / 64 % 64 + 128), .ofNat (c.toNat % 64 + 128)] := rfl

theorem toNat_ofNat (valid : n.isValidChar) : (Char.ofNat n).toNat = n := by
  rw [Char.ofNat, dif_pos valid]
  rfl

theorem ofNat_eq {n : Nat} (same : byte.toNat = n) : UInt8.ofNat n = byte := by
  rw [← same, UInt8.ofNat_toNat]

/-- Bytes that spell a number are those of its character. -/
theorem Spells.encode (spells : Spells n first tail) :
    n.isValidChar ∧ String.utf8EncodeChar (Char.ofNat n) = first :: tail := by
  have valid : n.isValidChar := by
    cases spells with
    | one | two | three | four => simp only [IsTail, Nat.isValidChar] at *; omega
  refine ⟨valid, ?_⟩
  rw [utf8EncodeChar_eq, toNat_ofNat valid]
  cases spells with
  | one same small => rw [if_pos (by omega), ofNat_eq same.symm]
  | two same least most second =>
      simp only [IsTail] at second
      rw [if_neg (by omega), if_pos (by omega), List.cons.injEq, List.cons.injEq]
      exact ⟨ofNat_eq (by omega), ofNat_eq (by omega), rfl⟩
  | three same least most second third above below =>
      simp only [IsTail] at second third
      rw [if_neg (by omega), if_neg (by omega), if_pos (by omega), List.cons.injEq,
        List.cons.injEq, List.cons.injEq]
      exact ⟨ofNat_eq (by omega), ofNat_eq (by omega), ofNat_eq (by omega), rfl⟩
  | four same least most second third fourth above below =>
      simp only [IsTail] at second third fourth
      rw [if_neg (by omega), if_neg (by omega), if_neg (by omega), List.cons.injEq,
        List.cons.injEq, List.cons.injEq, List.cons.injEq]
      exact ⟨ofNat_eq (by omega), ofNat_eq (by omega), ofNat_eq (by omega), ofNat_eq (by omega), rfl⟩

theorem toNat_byte (small : n < 0x100) : (UInt8.ofNat n).toNat = n :=
  UInt8.toNat_ofNat_of_lt' small

theorem toNat_tail (n : Nat) : (UInt8.ofNat (n % 64 + 128)).toNat = n % 64 + 128 :=
  toNat_byte (by omega)

theorem isTail_ofNat (n : Nat) : IsTail (.ofNat (n % 64 + 128)) := by
  rw [IsTail, toNat_tail]
  omega

/-- The bytes of a character spell its number. -/
theorem spells_of_encode (spelled : String.utf8EncodeChar c = first :: tail) :
    Spells c.toNat first tail := by
  have valid : c.toNat.isValidChar := c.valid
  rw [utf8EncodeChar_eq] at spelled
  generalize c.toNat = n at *
  split at spelled
  · cases spelled
    have lead : (UInt8.ofNat n).toNat = n := toNat_byte (by omega)
    exact .one lead.symm (by omega)
  · split at spelled
    · cases spelled
      have lead : (UInt8.ofNat (n / 64 % 32 + 192)).toNat = n / 64 % 32 + 192 :=
        toNat_byte (by omega)
      refine .two ?_ ?_ ?_ (isTail_ofNat n) <;> simp only [lead, toNat_tail] <;> omega
    · split at spelled
      · cases spelled
        have lead : (UInt8.ofNat (n / 4096 % 16 + 224)).toNat = n / 4096 % 16 + 224 :=
          toNat_byte (by omega)
        refine .three ?_ ?_ ?_ (isTail_ofNat _) (isTail_ofNat n) ?_ ?_ <;>
          simp only [lead, toNat_tail, Nat.isValidChar] at * <;> omega
      · cases spelled
        have lead : (UInt8.ofNat (n / 262144 % 8 + 240)).toNat = n / 262144 % 8 + 240 :=
          toNat_byte (by omega)
        refine .four ?_ ?_ ?_ (isTail_ofNat _) (isTail_ofNat _) (isTail_ofNat n) ?_ ?_ <;>
          simp only [lead, toNat_tail, Nat.isValidChar] at * <;> omega

theorem lead?_eq (byte : UInt8) :
    lead? byte =
      if byte.toNat < 0xc2 then none
      else if byte.toNat < 0xe0 then some (2, 0x80, 0xbf)
      else if byte.toNat = 0xe0 then some (3, 0xa0, 0xbf)
      else if byte.toNat = 0xed then some (3, 0x80, 0x9f)
      else if byte.toNat < 0xf0 then some (3, 0x80, 0xbf)
      else if byte.toNat = 0xf0 then some (4, 0x90, 0xbf)
      else if byte.toNat < 0xf4 then some (4, 0x80, 0xbf)
      else if byte.toNat = 0xf4 then some (4, 0x80, 0x8f)
      else none := by
  simp only [lead?, UInt8.lt_iff_toNat_lt, beq_iff_eq, ← UInt8.toNat_inj]
  rfl

theorem firstPiece_of_lead {size count : Nat} (large : 0x80 ≤ first.toNat)
    (leads : lead? first = some (size, low, high)) (counts : 1 <<< (7 - size) = count) :
    firstPiece first rest = completed (first.toNat % count) 1 (size - 1) low high rest := by
  rw [firstPiece, if_neg (by simpa [UInt8.lt_iff_toNat_lt] using large)]
  simp only [leads, counts]

theorem completed_cons (above : low.toNat ≤ byte.toNat) (below : byte.toNat ≤ high.toNat) :
    completed code width (missing + 1) low high (byte :: rest) =
      completed (code * 0x40 + byte.toNat % 0x40) (width + 1) missing 0x80 0xbf rest := by
  rw [completed, if_pos]
  simp [UInt8.le_iff_toNat_le, above, below]

theorem completed_tail (ends : IsTail byte) :
    completed code width (missing + 1) 0x80 0xbf (byte :: rest) =
      completed (code * 0x40 + byte.toNat % 0x40) (width + 1) missing 0x80 0xbf rest :=
  completed_cons ends.1 ends.2

theorem exists_of_completed
    (read : completed code width (missing + 1) low high bytes = .character c skip) :
    ∃ byte rest, bytes = byte :: rest ∧ low.toNat ≤ byte.toNat ∧ byte.toNat ≤ high.toNat ∧
      completed (code * 0x40 + byte.toNat % 0x40) (width + 1) missing 0x80 0xbf rest =
        .character c skip := by
  cases bytes with
  | nil => contradiction
  | cons byte rest =>
      rw [completed] at read
      split at read
      · rename_i inside
        simp only [Bool.and_eq_true, decide_eq_true_eq, UInt8.le_iff_toNat_le] at inside
        exact ⟨byte, rest, rfl, inside.1, inside.2, read⟩
      · contradiction

theorem lead?_of_three (least : 0xe0 ≤ first.toNat) (most : first.toNat < 0xf0)
    (ends : IsTail second) (above : first.toNat = 0xe0 → 0xa0 ≤ second.toNat)
    (below : first.toNat = 0xed → second.toNat ≤ 0x9f) :
    ∃ low high, lead? first = some (3, low, high) ∧ low.toNat ≤ second.toNat ∧
      second.toNat ≤ high.toNat := by
  rw [lead?_eq, if_neg (by omega), if_neg (by omega), if_pos most]
  split
  · exact ⟨_, _, rfl, above ‹_›, ends.2⟩
  · split
    · exact ⟨_, _, rfl, ends.1, below ‹_›⟩
    · exact ⟨_, _, rfl, ends.1, ends.2⟩

theorem lead?_of_four (least : 0xf0 ≤ first.toNat) (most : first.toNat ≤ 0xf4)
    (ends : IsTail second) (above : first.toNat = 0xf0 → 0x90 ≤ second.toNat)
    (below : first.toNat = 0xf4 → second.toNat ≤ 0x8f) :
    ∃ low high, lead? first = some (4, low, high) ∧ low.toNat ≤ second.toNat ∧
      second.toNat ≤ high.toNat := by
  rw [lead?_eq, if_neg (by omega), if_neg (by omega), if_neg (by omega), if_neg (by omega),
    if_neg (by omega)]
  split
  · exact ⟨_, _, rfl, above ‹_›, ends.2⟩
  · split
    · exact ⟨_, _, rfl, ends.1, ends.2⟩
    · rw [if_pos (by omega)]
      exact ⟨_, _, rfl, ends.1, below (by omega)⟩

/-- Bytes that spell a number are read as its character. -/
theorem Spells.firstPiece (spells : Spells n first tail) :
    firstPiece first (tail ++ rest) = .character (Char.ofNat n) (tail.length + 1) := by
  cases spells with
  | one same small =>
      rw [Utf8.firstPiece, if_pos (by simpa [UInt8.lt_iff_toNat_lt] using small), same]
      rfl
  | two same least most second =>
      have leads : lead? first = some (2, 0x80, 0xbf) := by
        rw [lead?_eq, if_neg (by omega), if_pos (by omega)]
      rw [firstPiece_of_lead (by omega) leads (rfl : _ = 0x20)]
      simp only [List.cons_append, List.nil_append]
      rw [completed_tail second, completed]
      simp only [IsTail] at second
      rw [show first.toNat % 0x20 * 0x40 + _ % 0x40 = n by omega]
      rfl
  | three same least most second third above below =>
      obtain ⟨low, high, leads, from_low, to_high⟩ := lead?_of_three least most second above below
      rw [firstPiece_of_lead (by omega) leads (rfl : _ = 0x10)]
      simp only [List.cons_append, List.nil_append]
      rw [completed_cons from_low to_high, completed_tail third, completed]
      simp only [IsTail] at second third
      rw [show (first.toNat % 0x10 * 0x40 + _ % 0x40) * 0x40 + _ % 0x40 = n by omega]
      rfl
  | four same least most second third fourth above below =>
      obtain ⟨low, high, leads, from_low, to_high⟩ := lead?_of_four least most second above below
      rw [firstPiece_of_lead (by omega) leads (rfl : _ = 8)]
      simp only [List.cons_append, List.nil_append]
      rw [completed_cons from_low to_high, completed_tail third, completed_tail fourth, completed]
      simp only [IsTail] at second third fourth
      rw [show ((first.toNat % 8 * 0x40 + _ % 0x40) * 0x40 + _ % 0x40) * 0x40 + _ % 0x40 = n
        by omega]
      rfl

theorem lead?_cases {size : Nat} (leads : lead? first = some (size, low, high)) :
    (size = 2 ∧ 0xc2 ≤ first.toNat ∧ first.toNat < 0xe0 ∧ low.toNat = 0x80 ∧ high.toNat = 0xbf) ∨
      (size = 3 ∧ 0xe0 ≤ first.toNat ∧ first.toNat < 0xf0 ∧ 0x80 ≤ low.toNat ∧ high.toNat ≤ 0xbf ∧
        (first.toNat = 0xe0 → 0xa0 ≤ low.toNat) ∧ (first.toNat = 0xed → high.toNat ≤ 0x9f)) ∨
      (size = 4 ∧ 0xf0 ≤ first.toNat ∧ first.toNat ≤ 0xf4 ∧ 0x80 ≤ low.toNat ∧ high.toNat ≤ 0xbf ∧
        (first.toNat = 0xf0 → 0x90 ≤ low.toNat) ∧ (first.toNat = 0xf4 → high.toNat ≤ 0x8f)) := by
  rw [lead?_eq] at leads
  repeat' split at leads
  all_goals cases leads
  all_goals simp
  all_goals omega

/-- A character is read from bytes that spell its number. -/
theorem exists_spells_of_firstPiece (read : Utf8.firstPiece first rest = .character c width) :
    ∃ n tail remaining, Spells n first tail ∧ rest = tail ++ remaining ∧ c = Char.ofNat n ∧
      width = tail.length + 1 := by
  by_cases small : first.toNat < 0x80
  · rw [Utf8.firstPiece, if_pos (by simpa [UInt8.lt_iff_toNat_lt] using small)] at read
    cases read
    exact ⟨first.toNat, [], rest, .one rfl small, rfl, rfl, rfl⟩
  · cases leads : lead? first with
    | none =>
        rw [Utf8.firstPiece, if_neg (by simpa [UInt8.lt_iff_toNat_lt] using small), leads] at read
        contradiction
    | some range =>
        obtain ⟨size, low, high⟩ := range
        rcases lead?_cases leads with ⟨rfl, least, most, from_low, to_high⟩ |
          ⟨rfl, least, most, from_low, to_high, above, below⟩ |
          ⟨rfl, least, most, from_low, to_high, above, below⟩
        · rw [firstPiece_of_lead (by omega) leads (rfl : _ = 0x20)] at read
          obtain ⟨second, more, rfl, secondLow, secondHigh, read⟩ := exists_of_completed read
          have ends : IsTail second := ⟨by omega, by omega⟩
          cases read
          refine ⟨_, [second], more, .two rfl least most ends, rfl, congrArg Char.ofNat ?_, rfl⟩
          simp only [IsTail] at ends
          omega
        · rw [firstPiece_of_lead (by omega) leads (rfl : _ = 0x10)] at read
          obtain ⟨second, more, rfl, secondLow, secondHigh, read⟩ := exists_of_completed read
          obtain ⟨third, more, rfl, thirdLow, thirdHigh, read⟩ := exists_of_completed read
          have ends : IsTail second := ⟨by omega, by omega⟩
          have further : IsTail third := ⟨thirdLow, thirdHigh⟩
          cases read
          refine ⟨_, [second, third], more, .three rfl least most ends further (by omega) (by omega),
            rfl, congrArg Char.ofNat ?_, rfl⟩
          simp only [IsTail] at ends further
          omega
        · rw [firstPiece_of_lead (by omega) leads (rfl : _ = 8)] at read
          obtain ⟨second, more, rfl, secondLow, secondHigh, read⟩ := exists_of_completed read
          obtain ⟨third, more, rfl, thirdLow, thirdHigh, read⟩ := exists_of_completed read
          obtain ⟨fourth, more, rfl, fourthLow, fourthHigh, read⟩ := exists_of_completed read
          have ends : IsTail second := ⟨by omega, by omega⟩
          have further : IsTail third := ⟨thirdLow, thirdHigh⟩
          have last : IsTail fourth := ⟨fourthLow, fourthHigh⟩
          cases read
          refine ⟨_, [second, third, fourth], more,
            .four rfl least most ends further last (by omega) (by omega), rfl,
            congrArg Char.ofNat ?_, rfl⟩
          simp only [IsTail] at ends further last
          omega

/-! ## Texts -/

theorem piecesFrom_eq (skip : Nat) (done : List Piece) (bytes : List UInt8) :
    piecesFrom skip done bytes = done.reverse ++ pieces (bytes.drop skip) := by
  induction bytes generalizing skip done with
  | nil => simp [piecesFrom, pieces]
  | cons byte rest induction =>
      cases skip with
      | succ skip => rw [piecesFrom, induction, List.drop_succ_cons]
      | zero =>
          rw [List.drop_zero, pieces, piecesFrom, piecesFrom, induction, induction]
          simp

theorem pieces_cons (byte : UInt8) (rest : List UInt8) :
    pieces (byte :: rest) =
      Utf8.firstPiece byte rest :: pieces (rest.drop ((Utf8.firstPiece byte rest).width - 1)) := by
  rw [pieces, piecesFrom, piecesFrom_eq]
  rfl

theorem pieces_of_spells (spells : Spells n first tail) (rest : List UInt8) :
    pieces (first :: (tail ++ rest)) =
      .character (Char.ofNat n) (tail.length + 1) :: pieces rest := by
  rw [pieces_cons, spells.firstPiece]
  simp [Piece.width]

theorem exists_cons_of_encode (spelled : byte :: rest = encode cs) :
    ∃ c more tail, cs = c :: more ∧ Spells c.toNat byte tail ∧ rest = tail ++ encode more := by
  cases cs with
  | nil => contradiction
  | cons c more =>
      rw [encode, List.flatMap_cons] at spelled
      cases first : String.utf8EncodeChar c with
      | nil => exact (String.utf8EncodeChar_ne_nil first).elim
      | cons head tail =>
          rw [first, List.cons_append, List.cons.injEq] at spelled
          obtain ⟨rfl, rfl⟩ := spelled
          exact ⟨c, more, tail, rfl, spells_of_encode first, rfl⟩

/-- Strict reading goes on as long as the bytes are those of characters. -/
theorem strictly_pieces_eq_ok_iff (offset : Nat) (done : List Char) :
    strictly offset bytes done (pieces bytes) = .ok cs ↔
      ∃ read, bytes = encode read ∧ cs = done.reverse ++ read := by
  induction size : bytes.length using Nat.strongRecOn generalizing bytes offset done with
  | ind size induction =>
      subst size
      cases bytes with
      | nil =>
          constructor
          · intro read
            cases read
            exact ⟨[], rfl, (List.append_nil _).symm⟩
          · rintro ⟨read, spelled, rfl⟩
            cases read with
            | nil => simp [pieces, piecesFrom, strictly]
            | cons c more => simp [encode, String.utf8EncodeChar_ne_nil] at spelled
      | cons first rest =>
          cases piece : Utf8.firstPiece first rest with
          | illFormed fault width =>
              rw [pieces_cons, piece]
              refine ⟨nofun, ?_⟩
              rintro ⟨read, spelled, -⟩
              obtain ⟨c, more, tail, -, spells, rfl⟩ := exists_cons_of_encode spelled
              cases piece.symm.trans spells.firstPiece
          | character c width =>
              obtain ⟨n, tail, remaining, spells, rfl, -, -⟩ := exists_spells_of_firstPiece piece
              obtain ⟨-, spelling⟩ := spells.encode
              have shorter : remaining.length < (first :: (tail ++ remaining)).length := by
                simp only [List.length_cons, List.length_append]
                omega
              rw [pieces_of_spells spells, strictly, List.drop_succ_cons, List.drop_left,
                induction _ shorter _ _ rfl]
              constructor
              · rintro ⟨read, rfl, rfl⟩
                refine ⟨Char.ofNat n :: read, ?_, by simp⟩
                simp only [encode, List.flatMap_cons, spelling, List.cons_append]
              · rintro ⟨read, spelled, rfl⟩
                obtain ⟨d, more, other, rfl, spellsToo, same⟩ := exists_cons_of_encode spelled
                have one := @Spells.firstPiece n first tail remaining spells
                rw [same, spellsToo.firstPiece, Piece.character.injEq, Char.ofNat_toNat] at one
                obtain ⟨rfl, lengths⟩ := one
                obtain ⟨rfl, rfl⟩ := List.append_inj same (by omega)
                exact ⟨more, rfl, by simp⟩

/-- Bytes are decoded as a text exactly if they are those of the text. -/
theorem decode_eq_ok_iff : decode bytes = .ok cs ↔ bytes = encode cs := by
  rw [decode, strictly_pieces_eq_ok_iff]
  simp

theorem unifyNewlines_of_not_mem (feeds : '\r' ∉ cs) : unifyNewlines cs = cs := by
  rw [unifyNewlines]
  induction cs with
  | nil => rfl
  | cons c cs induction =>
      rw [List.mem_cons, not_or] at feeds
      have rest := induction feeds.2
      rw [unifyFrom.eq_def]
      split
      · contradiction
      · rename_i same
        exact (feeds.1 (List.cons.inj same).1.symm).elim
      · rename_i same
        obtain ⟨rfl, rfl⟩ := List.cons.inj same
        simp [rest]
      · rename_i same
        obtain ⟨rfl, rfl⟩ := List.cons.inj same
        rw [rest]

theorem textOf_encode (s : String) (feeds : '\r' ∉ s.toList) :
    FileSystem.textOf (encode s.toList) = .ok s := by
  rw [FileSystem.textOf, decode_eq_ok_iff.mpr rfl]
  simp [Except.map, unifyNewlines_of_not_mem feeds]

end Baseline.Text.Utf8
