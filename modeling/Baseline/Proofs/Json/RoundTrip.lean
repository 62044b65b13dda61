import Baseline.Proofs.Json.Texts

/-!
# Listings in JSON are read back

The lines of files are read from the object that is written for them, whatever the files are called,
if every line number can be shown.
-/

namespace Baseline.Json

variable {c : Char} {n : Int} {level position fuel depth : Nat} {rest cs : List Char}
  {lines : List Int} {files : FileLines}

/-! ## White space -/

theorem isSpace_comma : isSpace ',' = false := rfl

theorem skipSpace_of_not_isSpace (inked : isSpace c = false) :
    (⟨c :: rest, position⟩ : Cursor).skipSpace = ⟨c :: rest, position⟩ := by
  simp [Cursor.skipSpace, inked]

/-- A line break and its indentation are skipped. -/
theorem skipSpace_newline (inked : isSpace c = false) :
    (⟨newline level ++ c :: rest, position⟩ : Cursor).skipSpace =
      ⟨c :: rest, position + (level + 1)⟩ := by
  have blank : ∀ d ∈ newline level, isSpace d = true := by
    intro d member
    rcases List.mem_cons.mp member with rfl | indent
    · rfl
    · rw [List.eq_of_mem_replicate indent]
      rfl
  have length : (newline level).length = level + 1 := by simp [newline]
  rw [Cursor.skipSpace]
  simp only [List.dropWhile_append_of_pos blank, List.takeWhile_append_of_pos blank,
    List.dropWhile_cons, List.takeWhile_cons, inked, Bool.false_eq_true, if_false,
    List.append_nil, length]

/-! ## Line numbers -/

/-- A character ends a number. -/
def IsStop (c : Char) : Prop := c = ',' ∨ c = '\n'

theorem takeWhile_isDigit_append {digits : List Char} (all : ∀ d ∈ digits, d.isDigit = true)
    (stop : IsStop c) : (digits ++ c :: rest).takeWhile Char.isDigit = digits := by
  have last : c.isDigit = false := by
    rcases stop with rfl | rfl <;> rfl
  rw [List.takeWhile_append_of_pos all, List.takeWhile_cons, last]
  simp

theorem wholePart_toDigits (k : Nat) (stop : IsStop c) :
    wholePart (Nat.toDigits 10 k ++ c :: rest) = Nat.toDigits 10 k := by
  have all := fun d member => @Number.isDigit_of_mem_toDigits k d member
  rcases Nat.eq_zero_or_pos k with rfl | positive
  · rfl
  · have first := Number.head?_toDigits (show 1 < 10 by omega) positive
    have taken := @takeWhile_isDigit_append c rest _ all stop
    cases digits : Nat.toDigits 10 k with
    | nil => exact (Nat.toDigits_ne_nil digits).elim
    | cons d ds =>
        rw [digits] at first taken
        rw [List.cons_append, wholePart]
        · exact taken
        · intro tail starts
          rw [(List.cons.inj starts).1] at first
          exact first rfl

theorem fractionPart_of_isStop (stop : IsStop c) : fractionPart (c :: rest) = [] := by
  rcases stop with rfl | rfl <;> rfl

theorem exponentPart_of_isStop (stop : IsStop c) : exponentPart (c :: rest) = [] := by
  rcases stop with rfl | rfl <;> rfl

/-- The digits of a number are at least one, and none of them is a sign. -/
theorem exists_digits (k : Nat) :
    ∃ d ds, Nat.toDigits 10 k = d :: ds ∧ 0x30 ≤ d.toNat ∧ d.toNat ≤ 0x39 := by
  obtain ⟨d, ds, digits⟩ := List.exists_cons_of_ne_nil (@Nat.toDigits_ne_nil k 10)
  have member : d ∈ Nat.toDigits 10 k := by simp [digits]
  exact ⟨d, ds, digits, Number.toNat_of_isDigit (Number.isDigit_of_mem_toDigits member)⟩

theorem minusPart_toString (n : Int) (rest : List Char) :
    minusPart ((toString n).toList ++ rest) =
      (if n < 0 then ['-'] else [], Nat.toDigits 10 n.natAbs ++ rest) := by
  obtain ⟨d, ds, digits, low, -⟩ := exists_digits n.natAbs
  have minus : d ≠ '-' := by
    rintro rfl
    contradiction
  rw [Number.toList_toString]
  by_cases negative : n < 0
  · simp [negative, minusPart]
  · simp [negative, digits, minusPart, minus]

theorem numberPart?_toString (n : Int) (stop : IsStop c) :
    numberPart? ((toString n).toList ++ c :: rest) = some ((toString n).toList, false) := by
  simp only [numberPart?, minusPart_toString, wholePart_toDigits _ stop, List.drop_left,
    fractionPart_of_isStop stop, List.length_nil, List.drop_zero, exponentPart_of_isStop stop]
  rw [Number.toList_toString]
  simp [Nat.toDigits_ne_nil]

theorem readNumber_toString (showable : Number.isShowable n = true) (stop : IsStop c) :
    ∃ next, readNumber ⟨(toString n).toList ++ c :: rest, position⟩ =
      .ok (.int n, ⟨c :: rest, next⟩) := by
  refine ⟨position + (toString n).toList.length, ?_⟩
  simp only [readNumber, numberPart?_toString n stop, String.ofList_toList,
    Number.readInteger_toString showable, Cursor.advance, Except.map, List.drop_left,
    Bool.false_eq_true, if_false]

/-- A number starts with a digit or a minus sign, and a digit follows the sign. -/
theorem exists_first (n : Int) :
    ∃ first tail, (toString n).toList = first :: tail ∧ 0x2d ≤ first.toNat ∧ first.toNat ≤ 0x39 ∧
      (first = '-' → ∃ d ds, tail = d :: ds ∧ d.toNat ≤ 0x39) := by
  obtain ⟨d, ds, digits, low, high⟩ := exists_digits n.natAbs
  rw [Number.toList_toString, digits]
  by_cases negative : n < 0
  · rw [if_pos negative]
    exact ⟨'-', d :: ds, rfl, by decide, by decide, fun _ => ⟨d, ds, rfl, high⟩⟩
  · rw [if_neg negative]
    refine ⟨d, ds, rfl, by omega, high, ?_⟩
    rintro rfl
    contradiction

theorem ne_of_toNat_le {d e : Char} (low : d.toNat ≤ 0x39) (high : 0x39 < e.toNat) : d ≠ e := by
  rintro rfl
  omega

/-- No word starts like a number. -/
theorem find?_words_toString (n : Int) (rest : List Char) :
    words.find? (fun entry => entry.1.isPrefixOf ((toString n).toList ++ rest)) = none := by
  obtain ⟨first, tail, spelled, low, high, signed⟩ := exists_first n
  have letter {e : Char} (above : 0x39 < e.toNat) : (e == first) = false :=
    beq_false_of_ne (ne_of_toNat_le high above).symm
  have infinity : '-' = first → ¬"Infinity".toList <+: tail ++ rest := by
    intro minus begins
    obtain ⟨d, ds, rfl, small⟩ := signed minus.symm
    obtain ⟨same, -⟩ := List.cons_prefix_cons.mp begins
    exact ne_of_toNat_le small (by decide) same.symm
  rw [spelled]
  simpa [words, List.isPrefixOf, letter] using infinity

theorem readScalar_toString (showable : Number.isShowable n = true) (stop : IsStop c) :
    ∃ next, readScalar ⟨(toString n).toList ++ c :: rest, position⟩ =
      .ok (.int n, ⟨c :: rest, next⟩) := by
  obtain ⟨next, read⟩ := @readNumber_toString c n position rest showable stop
  refine ⟨next, ?_⟩
  have unworded := find?_words_toString n (c :: rest)
  obtain ⟨first, tail, spelled, low, -, -⟩ := exists_first n
  rw [readScalar]
  split
  · rename_i starts
    rw [spelled, List.cons_append] at starts
    rw [(List.cons.inj starts).1] at low
    exact absurd low (by decide)
  · simp only [unworded, read]

/-- The text of a line number is a value that holds no other. -/
theorem readValue_toString (showable : Number.isShowable n = true) (stop : IsStop c) :
    ∃ next, readValue (fuel + 1) depth ⟨(toString n).toList ++ c :: rest, position⟩ =
      .ok (.int n, ⟨c :: rest, next⟩) := by
  obtain ⟨next, read⟩ := @readScalar_toString c n position rest showable stop
  refine ⟨next, ?_⟩
  obtain ⟨first, tail, spelled, -, high, -⟩ := exists_first n
  have square : first ≠ '[' := ne_of_toNat_le high (by decide)
  have curly : first ≠ '\x7b' := ne_of_toNat_le high (by decide)
  rw [← read, readValue.eq_def, spelled]
  simp [square, curly]

/-! ## Blocks -/

/-- What follows an item of a block: the further items and the closing bracket. -/
def blockTail (closing : Char) (level : Nat) (items : List (List Char)) : List Char :=
  items.flatMap (fun item => ',' :: newline (level + 1) ++ item) ++ newline level ++ [closing]

theorem writeBlock_cons (opening closing : Char) (level : Nat) (item : List Char)
    (items : List (List Char)) :
    writeBlock opening closing level (item :: items) =
      opening :: (newline (level + 1) ++ (item ++ blockTail closing level items)) := by
  simp [writeBlock, blockTail]

theorem blockTail_nil_append (closing : Char) (level : Nat) (rest : List Char) :
    blockTail closing level [] ++ rest = newline level ++ closing :: rest := by
  simp [blockTail]

theorem blockTail_cons_append (closing : Char) (level : Nat) (item : List Char)
    (items : List (List Char)) (rest : List Char) :
    blockTail closing level (item :: items) ++ rest =
      ',' :: (newline (level + 1) ++ (item ++ (blockTail closing level items ++ rest))) := by
  simp [blockTail]

/-- After an item there is a comma or a line break. -/
theorem exists_isStop (closing : Char) (level : Nat) (items : List (List Char))
    (rest : List Char) :
    ∃ c more, blockTail closing level items ++ rest = c :: more ∧ IsStop c := by
  cases items with
  | nil => exact ⟨'\n', _, blockTail_nil_append closing level rest, .inr rfl⟩
  | cons item items => exact ⟨',', _, blockTail_cons_append closing level item items rest, .inl rfl⟩

/-! ## Lists of lines -/

theorem skipSpace_newline_toString (n : Int) (cs : List Char) :
    ∃ next, (⟨newline level ++ ((toString n).toList ++ cs), position⟩ : Cursor).skipSpace =
      ⟨(toString n).toList ++ cs, next⟩ := by
  obtain ⟨first, tail, spelled, low, -, -⟩ := exists_first n
  have inked : isSpace first = false := by
    have differs {e : Char} (small : e.toNat < 0x2d) : (first == e) = false := by
      rw [beq_eq_false_iff_ne]
      rintro rfl
      omega
    simp [isSpace, differs]
  rw [spelled]
  exact ⟨_, skipSpace_newline inked⟩

theorem readValue_item (showable : Number.isShowable n = true) (closing : Char) (level : Nat)
    (items : List (List Char)) (rest : List Char) :
    ∃ next, readValue (fuel + 1) depth
        ⟨(toString n).toList ++ (blockTail closing level items ++ rest), position⟩ =
      .ok (.int n, ⟨blockTail closing level items ++ rest, next⟩) := by
  obtain ⟨c, more, starts, stop⟩ := exists_isStop closing level items rest
  rw [starts]
  exact readValue_toString showable stop

/-- The items of a list of lines are read one after the other. -/
theorem readItems_lines {done : List Payload}
    (showable : ∀ m ∈ n :: lines, Number.isShowable m = true) (enough : lines.length + 2 ≤ fuel) :
    ∃ stop, readItems fuel depth done ⟨(toString n).toList ++
        (blockTail ']' level (lines.map fun line => (toString line).toList) ++ rest), position⟩ =
      .ok (.list (done.reverse ++ (n :: lines).map .int), ⟨rest, stop⟩) := by
  induction lines generalizing n fuel done position with
  | nil =>
      obtain ⟨fuel, rfl⟩ := Nat.exists_eq_add_of_le' enough
      obtain ⟨next, read⟩ := @readValue_item n position fuel depth
        (showable n List.mem_cons_self) ']' level [] rest
      have skipped := @skipSpace_newline ']' level next rest rfl
      refine ⟨next + (level + 1) + 1, ?_⟩
      rw [List.map_nil, List.length_nil, readItems, read]
      simp only [blockTail_nil_append, skipped]
      simp [Cursor.next]
  | cons line lines induction =>
      have two_le : 2 ≤ fuel := by omega
      obtain ⟨fuel, rfl⟩ := Nat.exists_eq_add_of_le' two_le
      rw [List.forall_mem_cons] at showable
      rw [List.length_cons] at enough
      obtain ⟨next, read⟩ := @readValue_item n position fuel depth showable.1 ']' level
        ((line :: lines).map fun line => (toString line).toList) rest
      rw [readItems, read]
      rw [List.map_cons, blockTail_cons_append]
      obtain ⟨next, skipped⟩ := @skipSpace_newline_toString (level + 1) (next + 1) line
        (blockTail ']' level (lines.map fun line => (toString line).toList) ++ rest)
      obtain ⟨stop, readRest⟩ := @induction line next (fuel + 1) (.int n :: done) showable.2
        (by omega)
      refine ⟨stop, ?_⟩
      simp only [skipSpace_of_not_isSpace isSpace_comma, Cursor.next, List.drop_succ_cons,
        List.drop_zero, skipped, readRest]
      simp

theorem head?_toString_append (n : Int) (cs : List Char) (above : 0x39 < c.toNat) :
    (((toString n).toList ++ cs).head? == some c) = false := by
  obtain ⟨first, tail, spelled, -, high, -⟩ := exists_first n
  rw [spelled]
  simpa using ne_of_toNat_le high above

/-- What is written for lines is read as a list of integers. -/
theorem readValue_writeLines (showable : ∀ line ∈ lines, Number.isShowable line = true)
    (enough : lines.length + 2 ≤ fuel) :
    ∃ stop, readValue fuel (depth + 1) ⟨writeLines level lines ++ rest, position⟩ =
      .ok (.list (lines.map .int), ⟨rest, stop⟩) := by
  cases lines with
  | nil =>
      obtain ⟨fuel, rfl⟩ := Nat.exists_eq_add_of_le' enough
      have closed := @skipSpace_of_not_isSpace ']' (position + 1) rest rfl
      refine ⟨position + 1 + 1, ?_⟩
      rw [List.length_nil, writeLines, List.map_nil, writeBlock, readValue.eq_def]
      simp [Cursor.next, closed]
  | cons line lines =>
      rw [List.length_cons] at enough
      have one_le : 1 ≤ fuel := by omega
      obtain ⟨fuel, rfl⟩ := Nat.exists_eq_add_of_le' one_le
      obtain ⟨next, skipped⟩ := @skipSpace_newline_toString (level + 1) (position + 1) line
        (blockTail ']' level (lines.map fun line => (toString line).toList) ++ rest)
      have opened := @head?_toString_append ']' line
        (blockTail ']' level (lines.map fun line => (toString line).toList) ++ rest) (by decide)
      obtain ⟨stop, read⟩ := @readItems_lines line level next fuel depth rest lines [] showable
        (by omega)
      refine ⟨stop, ?_⟩
      rw [writeLines, List.map_cons, writeBlock_cons, readValue.eq_def]
      simp only [List.cons_append, List.append_assoc, Cursor.next, List.drop_succ_cons,
        List.drop_zero, skipped, opened, read, Bool.false_eq_true, if_false]
      rfl

/-! ## Objects of files -/

/-- What is written for a file. -/
def memberText (entry : String × List Int) : List Char :=
  writeText entry.1 ++ ": ".toList ++ writeLines 1 entry.2

theorem writeFileLines_eq (files : FileLines) :
    writeFileLines files = writeBlock '\x7b' '\x7d' 0 (files.map memberText) := rfl

/-- What is read for a file. -/
def memberOf (entry : String × List Int) : String × Payload :=
  (entry.1, .list (entry.2.map .int))

theorem skipSpace_space_writeLines (lines : List Int) (cs : List Char) :
    (⟨' ' :: (writeLines level lines ++ cs), position⟩ : Cursor).skipSpace =
      ⟨writeLines level lines ++ cs, position + 1⟩ := by
  obtain ⟨tail, starts⟩ : ∃ tail, writeLines level lines = '[' :: tail := by
    cases lines with
    | nil => exact ⟨[']'], rfl⟩
    | cons line lines => exact ⟨_, writeBlock_cons _ _ _ _ _⟩
  have square : isSpace '[' = false := rfl
  have blank : isSpace ' ' = true := rfl
  rw [starts]
  simp [Cursor.skipSpace, square, blank]

/-- A member is read up to what follows its value. -/
theorem readMembers_member {entry : String × List Int} {done : List (String × Payload)}
    (showable : ∀ line ∈ entry.2, Number.isShowable line = true)
    (enough : entry.2.length + 2 ≤ fuel) (cs : List Char) :
    ∃ next, readMembers (fuel + 1) (depth + 1) done ⟨memberText entry ++ cs, position⟩ =
      let after := (⟨cs, next⟩ : Cursor).skipSpace
      match after.rest with
      | '\x7d' :: _ => .ok (.ofEntries (memberOf entry :: done).reverse, after.next)
      | ',' :: _ => readMembers fuel (depth + 1) (memberOf entry :: done) after.next.skipSpace
      | _ => after.fail .comma := by
  obtain ⟨key, lines⟩ := entry
  obtain ⟨stop, readKey⟩ := readText_flatMap_escaped position (position + 1) [] key.toList
    (':' :: ' ' :: (writeLines 1 lines ++ cs))
  obtain ⟨next, readLines⟩ := @readValue_writeLines 1 (stop + 1 + 1) fuel depth cs lines showable
    enough
  refine ⟨next, ?_⟩
  have colon := @skipSpace_of_not_isSpace ':' stop (' ' :: (writeLines 1 lines ++ cs)) rfl
  have spelled : memberText (key, lines) ++ cs =
      '"' :: (key.toList.flatMap escaped ++ '"' :: (':' :: ' ' :: (writeLines 1 lines ++ cs))) := by
    simp [memberText, writeText]
  rw [spelled, readMembers.eq_def]
  simp only [readKey, colon, Cursor.next, List.drop_succ_cons, List.drop_zero,
    skipSpace_space_writeLines, readLines, List.reverse_nil, List.nil_append, String.ofList_toList]
  rfl

theorem skipSpace_newline_memberText (entry : String × List Int) (cs : List Char) :
    (⟨newline level ++ (memberText entry ++ cs), position⟩ : Cursor).skipSpace =
      ⟨memberText entry ++ cs, position + (level + 1)⟩ :=
  @skipSpace_newline '"' level position _ rfl

/-- The members of an object of files are read one after the other. -/
theorem readMembers_files {entry : String × List Int} {done : List (String × Payload)}
    (showable : ∀ other ∈ entry :: files, ∀ line ∈ other.2, Number.isShowable line = true)
    (enough : ∀ other ∈ entry :: files, files.length + other.2.length + 3 ≤ fuel) :
    ∃ stop, readMembers fuel (depth + 1) done
        ⟨memberText entry ++ (blockTail '\x7d' 0 (files.map memberText) ++ rest), position⟩ =
      .ok (.ofEntries (done.reverse ++ (entry :: files).map memberOf), ⟨rest, stop⟩) := by
  induction files generalizing entry fuel done position with
  | nil =>
      have room := enough entry List.mem_cons_self
      rw [List.length_nil] at room
      have one_le : 1 ≤ fuel := by omega
      obtain ⟨fuel, rfl⟩ := Nat.exists_eq_add_of_le' one_le
      obtain ⟨next, read⟩ := @readMembers_member position fuel depth entry done
        (showable entry List.mem_cons_self) (by omega) (blockTail '\x7d' 0 [] ++ rest)
      have skipped := @skipSpace_newline '\x7d' 0 next rest rfl
      refine ⟨next + (0 + 1) + 1, ?_⟩
      rw [List.map_nil, read, blockTail_nil_append, skipped]
      simp [Cursor.next]
  | cons file files induction =>
      have room := enough entry List.mem_cons_self
      rw [List.length_cons] at room
      have one_le : 1 ≤ fuel := by omega
      obtain ⟨fuel, rfl⟩ := Nat.exists_eq_add_of_le' one_le
      obtain ⟨next, read⟩ := @readMembers_member position fuel depth entry done
        (showable entry List.mem_cons_self) (by omega)
        (blockTail '\x7d' 0 ((file :: files).map memberText) ++ rest)
      obtain ⟨stop, readRest⟩ := @induction (next + 1 + (0 + 1 + 1)) fuel file
        (memberOf entry :: done)
        (fun other member => showable other (List.mem_cons_of_mem _ member))
        (fun other member => by
          have room := enough other (List.mem_cons_of_mem _ member)
          rw [List.length_cons] at room
          omega)
      refine ⟨stop, ?_⟩
      rw [read, List.map_cons, blockTail_cons_append]
      simp only [skipSpace_of_not_isSpace isSpace_comma, Cursor.next, List.drop_succ_cons,
        List.drop_zero, skipSpace_newline_memberText, readRest]
      simp

/-- The object of files. -/
def objectOf (files : FileLines) : Payload := .map (files.map memberOf)

theorem foldl_putEntry_of_nodup {done entries : List (String × Payload)}
    (nodup : ((done ++ entries).map Prod.fst).Nodup) :
    entries.foldl Payload.putEntry done = done ++ entries := by
  induction entries generalizing done with
  | nil => simp
  | cons entry entries induction =>
      have fresh : done.any (fun other => other.1 == entry.1) = false := by
        rw [List.map_append, List.nodup_append] at nodup
        rw [List.any_eq_false]
        intro other member same
        rw [beq_iff_eq] at same
        exact nodup.2.2 other.1 (List.mem_map_of_mem member) entry.1 (by simp) same
      have put : Payload.putEntry done entry = done ++ [entry] := by
        simp [Payload.putEntry, fresh]
      rw [List.foldl_cons, put, induction (by simpa using nodup)]
      simp

/-- What is written for files is read as their object. -/
theorem readValue_writeFileLines (nodup : (files.map Prod.fst).Nodup)
    (showable : ∀ entry ∈ files, ∀ line ∈ entry.2, Number.isShowable line = true)
    (enough : ∀ entry ∈ files, files.length + entry.2.length + 3 ≤ fuel) (filled : 1 ≤ fuel) :
    ∃ stop, readValue fuel (depth + 2) ⟨writeFileLines files ++ rest, position⟩ =
      .ok (objectOf files, ⟨rest, stop⟩) := by
  obtain ⟨fuel, rfl⟩ := Nat.exists_eq_add_of_le' filled
  cases files with
  | nil =>
      have closed := @skipSpace_of_not_isSpace '\x7d' (position + 1) rest rfl
      refine ⟨position + 1 + 1, ?_⟩
      rw [writeFileLines, List.map_nil, writeBlock, readValue.eq_def]
      simp [Cursor.next, closed, objectOf]
  | cons entry files =>
      obtain ⟨stop, read⟩ := @readMembers_files (position + 1 + (0 + 1 + 1)) fuel depth rest files
        entry [] showable (fun other member => by
          have room := enough other member
          rw [List.length_cons] at room
          omega)
      have keys : (((entry :: files).map memberOf).map Prod.fst).Nodup := by
        rw [List.map_map]
        exact nodup
      have object : Payload.ofEntries ((entry :: files).map memberOf) =
          objectOf (entry :: files) := by
        rw [Payload.ofEntries, foldl_putEntry_of_nodup keys, List.nil_append, objectOf]
      have opened (cs : List Char) : ((memberText entry ++ cs).head? == some '\x7d') = false := rfl
      rw [List.reverse_nil, List.nil_append, object] at read
      refine ⟨stop, ?_⟩
      rw [writeFileLines_eq, List.map_cons, writeBlock_cons, readValue.eq_def]
      simp only [List.cons_append, List.append_assoc, Cursor.next, List.drop_succ_cons,
        List.drop_zero, skipSpace_newline_memberText, opened, read, Bool.false_eq_true, if_false]

/-! ## Whole texts -/

theorem length_le_blockTail (closing : Char) (level : Nat) (items : List (List Char)) :
    items.length + 1 ≤ (blockTail closing level items).length ∧
      ∀ item ∈ items, item.length + 1 ≤ (blockTail closing level items).length := by
  induction items with
  | nil => simp [blockTail]
  | cons item items induction =>
      obtain ⟨count, each⟩ := induction
      have spelled := blockTail_cons_append closing level item items []
      rw [List.append_nil, List.append_nil] at spelled
      rw [spelled]
      simp only [List.length_cons, List.length_append]
      refine ⟨by omega, ?_⟩
      intro other member
      rcases List.mem_cons.mp member with rfl | member
      · omega
      · have := each other member
        omega

/-- A block is longer than its items are many, and than each of them. -/
theorem length_le_writeBlock (opening closing : Char) (level : Nat) (items : List (List Char)) :
    items.length + 2 ≤ (writeBlock opening closing level items).length ∧
      ∀ item ∈ items, item.length + 2 ≤ (writeBlock opening closing level items).length := by
  cases items with
  | nil => simp [writeBlock]
  | cons item items =>
      obtain ⟨count, each⟩ := length_le_blockTail closing level items
      rw [writeBlock_cons]
      simp only [List.length_cons, List.length_append, newline]
      refine ⟨by omega, ?_⟩
      intro other member
      rcases List.mem_cons.mp member with rfl | member
      · omega
      · have := each other member
        omega

theorem length_lt_writeFileLines {entry : String × List Int} (member : entry ∈ files) :
    files.length + entry.2.length + 3 ≤ 2 * (writeFileLines files).length := by
  obtain ⟨count, each⟩ := length_le_writeBlock '\x7b' '\x7d' 0 (files.map memberText)
  have whole := each (memberText entry) (List.mem_map_of_mem member)
  have part := (length_le_writeBlock '[' ']' 1
    (entry.2.map fun line => (toString line).toList)).1
  rw [List.length_map] at count part
  rw [memberText, List.length_append, writeLines] at whole
  rw [writeFileLines_eq]
  omega

/-- The text that is written for files denotes their object. -/
theorem read_writeFileLines (nodup : (files.map Prod.fst).Nodup)
    (showable : ∀ entry ∈ files, ∀ line ∈ entry.2, Number.isShowable line = true) :
    read (String.ofList (writeFileLines files ++ ['\n'])) = .ok (objectOf files) := by
  have enough : ∀ entry ∈ files, files.length + entry.2.length + 3 ≤
      2 * (writeFileLines files ++ ['\n']).length + 1 := by
    intro entry member
    have := length_lt_writeFileLines member
    rw [List.length_append]
    omega
  obtain ⟨stop, read⟩ := @readValue_writeFileLines 0
    (2 * (writeFileLines files ++ ['\n']).length + 1) 988 ['\n'] files nodup showable enough
    (by omega)
  obtain ⟨tail, starts⟩ : ∃ tail, writeFileLines files ++ ['\n'] = '\x7b' :: tail := by
    cases files with
    | nil => exact ⟨_, rfl⟩
    | cons entry files => exact ⟨_, rfl⟩
  have skipped := @skipSpace_of_not_isSpace '\x7b' 0 tail rfl
  rw [starts] at read
  rw [Json.read, starts]
  simp only [String.toList_ofList, skipped, depthLimit, read]
  rfl

/-! ## Characters of a text -/

/-- A character is plain or a line break. -/
def IsWritten (c : Char) : Prop := IsPlain c ∨ c = '\n'

theorem isWritten_of_mem_newline (member : c ∈ newline level) : IsWritten c := by
  rcases List.mem_cons.mp member with rfl | indent
  · exact .inr rfl
  · rw [List.eq_of_mem_replicate indent]
    exact .inl (by decide)

theorem isWritten_of_mem_writeBlock {opening closing : Char} {items : List (List Char)}
    (opens : IsPlain opening) (closes : IsPlain closing)
    (inside : ∀ item ∈ items, ∀ c ∈ item, IsWritten c)
    (member : c ∈ writeBlock opening closing level items) : IsWritten c := by
  have separates : IsWritten ',' := .inl (by decide)
  cases items with
  | nil =>
      simp only [writeBlock, List.mem_cons, List.not_mem_nil, or_false] at member
      rcases member with rfl | rfl
      · exact .inl opens
      · exact .inl closes
  | cons item items =>
      rw [List.forall_mem_cons] at inside
      have tail : ∀ c ∈ blockTail closing level items, IsWritten c := by
        intro d listed
        simp only [blockTail, List.mem_append, List.mem_flatMap, List.mem_cons,
          List.not_mem_nil, or_false] at listed
        rcases listed with (⟨other, further, (rfl | indent) | own⟩ | indent) | rfl
        · exact separates
        · exact isWritten_of_mem_newline indent
        · exact inside.2 other further d own
        · exact isWritten_of_mem_newline indent
        · exact .inl closes
      rw [writeBlock_cons, List.mem_cons, List.mem_append, List.mem_append] at member
      rcases member with rfl | indent | own | further
      · exact .inl opens
      · exact isWritten_of_mem_newline indent
      · exact inside.1 c own
      · exact tail c further

theorem isWritten_of_mem_toString (member : c ∈ (toString n).toList) : IsWritten c := by
  rw [Number.toList_toString, List.mem_append] at member
  refine .inl ?_
  rcases member with sign | digit
  · split at sign
    · rw [List.mem_singleton.mp sign]
      decide
    · contradiction
  · obtain ⟨low, high⟩ := Number.toNat_of_isDigit (Number.isDigit_of_mem_toDigits digit)
    exact ⟨by omega, by omega⟩

theorem isWritten_of_mem_writeLines (member : c ∈ writeLines level lines) : IsWritten c := by
  refine isWritten_of_mem_writeBlock (by decide) (by decide) ?_ member
  intro item listed d own
  obtain ⟨line, -, rfl⟩ := List.mem_map.mp listed
  exact isWritten_of_mem_toString own

theorem isWritten_of_mem_writeFileLines (member : c ∈ writeFileLines files) : IsWritten c := by
  rw [writeFileLines_eq] at member
  refine isWritten_of_mem_writeBlock (by decide) (by decide) ?_ member
  intro item listed d own
  obtain ⟨entry, -, rfl⟩ := List.mem_map.mp listed
  rw [memberText, List.mem_append, List.mem_append] at own
  rcases own with (key | colon) | lines
  · exact .inl (isPlain_of_mem_writeText key)
  · have spelled : d = ':' ∨ d = ' ' := by simpa using colon
    rcases spelled with rfl | rfl <;> exact .inl (by decide)
  · exact isWritten_of_mem_writeLines lines

end Baseline.Json
