import Baseline.Path

/-!
# Pieces of texts and paths

A text is cut into pieces at each separator, so the pieces of a text with a separator in it are
those before and those after it. From this come the parts of a path whose spelling starts and ends
with a letter: there is one part unless there is a slash. The last part and the spelling of a path
end alike. A path without a backslash is spelled with slashes as it is.
-/

namespace Baseline

namespace Text

variable {c separator : Char} {cs first second : List Char}

theorem pieces_append_cons :
    pieces separator (first ++ separator :: second) =
      pieces separator first ++ pieces separator second := by
  induction first with
  | nil => simp [pieces, piecesBy]
  | cons c first induction =>
      simp only [pieces, List.cons_append, piecesBy] at induction ⊢
      split
      · simp [induction]
      · rw [induction]
        cases cut : piecesBy (· == separator) first with
        | nil => exact (piecesBy_ne_nil _ _ cut).elim
        | cons piece pieces => rfl

theorem pieces_ne_nil (separator : Char) (cs : List Char) : pieces separator cs ≠ [] :=
  piecesBy_ne_nil _ cs

theorem pieces_of_not_mem (whole : separator ∉ cs) : pieces separator cs = [cs] := by
  induction cs with
  | nil => rfl
  | cons c cs induction =>
      simp only [List.mem_cons, not_or] at whole
      have rest : piecesBy (· == separator) cs = [cs] := induction whole.2
      have differs : (c == separator) = false := by simpa using Ne.symm whole.1
      simp [pieces, piecesBy, differs, rest]

theorem joined_cons {piece : List Char} {rest : List (List Char)} (more : rest ≠ []) :
    joined [separator] (piece :: rest) = piece ++ separator :: joined [separator] rest := by
  cases rest with
  | nil => contradiction
  | cons next rest => simp [joined]

theorem joined_append {before after : List (List Char)} (some : before ≠ []) (more : after ≠ []) :
    joined [separator] (before ++ after) =
      joined [separator] before ++ separator :: joined [separator] after := by
  induction before with
  | nil => contradiction
  | cons piece before induction =>
      cases before with
      | nil => exact joined_cons more
      | cons next before =>
          have several : next :: before ≠ [] := List.cons_ne_nil next before
          rw [List.cons_append, joined_cons (List.append_ne_nil_of_left_ne_nil several after),
            induction several, joined_cons several, List.append_assoc, List.cons_append]

/-- The pieces of a text give it back. -/
theorem joined_pieces (separator : Char) (cs : List Char) :
    joined [separator] (pieces separator cs) = cs := by
  induction cs with
  | nil => rfl
  | cons c cs induction =>
      have some : piecesBy (· == separator) cs ≠ [] := pieces_ne_nil separator cs
      rw [pieces] at induction ⊢
      rw [piecesBy]
      split
      · rename_i same
        rw [joined_cons some, induction, eq_of_beq same, List.nil_append]
      · cases cut : piecesBy (· == separator) cs with
        | nil => contradiction
        | cons piece rest =>
            rw [cut] at induction
            cases rest with
            | nil => exact congrArg _ induction
            | cons next rest =>
                rw [joined_cons (List.cons_ne_nil _ _)] at induction ⊢
                exact congrArg _ induction

/-- A character that does not separate is in one of the pieces. -/
theorem exists_mem_pieces (member : c ∈ cs) (differs : c ≠ separator) :
    ∃ piece ∈ pieces separator cs, c ∈ piece := by
  induction cs with
  | nil => simp at member
  | cons head cs induction =>
      simp only [pieces, piecesBy] at induction ⊢
      rcases List.mem_cons.mp member with rfl | member
      · have between : (c == separator) = false := by simpa using differs
        simp only [between, Bool.false_eq_true, if_false]
        split <;> simp
      · obtain ⟨piece, inside, found⟩ := induction member
        split
        · exact ⟨piece, List.mem_cons_of_mem _ inside, found⟩
        · split
          · rename_i cut
            simp [cut] at inside
          · rename_i start pieces cut
            rw [cut] at inside
            rcases List.mem_cons.mp inside with rfl | inside
            · exact ⟨_, List.mem_cons_self, List.mem_cons_of_mem _ found⟩
            · exact ⟨piece, List.mem_cons_of_mem _ inside, found⟩

/-- An ending without a separator ends the last piece. -/
theorem exists_pieces_append (whole : separator ∉ second) :
    ∃ before last, pieces separator (first ++ second) = before ++ [last ++ second] := by
  induction first with
  | nil => exact ⟨[], [], pieces_of_not_mem whole⟩
  | cons c first induction =>
      obtain ⟨before, last, cut⟩ := induction
      simp only [pieces, List.cons_append, piecesBy] at cut ⊢
      split
      · exact ⟨[] :: before, last, by rw [cut, List.cons_append]⟩
      · rw [cut]
        cases before with
        | nil => exact ⟨[], c :: last, rfl⟩
        | cons piece before => exact ⟨(c :: piece) :: before, last, rfl⟩

theorem replaceChar_of_not_mem {old new : Char} (absent : old ∉ cs) :
    replaceChar old new cs = cs := by
  refine (List.map_congr_left fun c member => ?_).trans (List.map_id cs)
  have differs : (c == old) = false := by
    simp only [beq_eq_false_iff_ne]
    rintro rfl
    exact absent member
  simp [differs]

end Text

theorem unixPath_of_not_mem {s : String} (plain : '\\' ∉ s.toList) : unixPath s = s := by
  rw [unixPath, Text.replaceChar_of_not_mem plain, String.ofList_toList]

/-- No backslash is left in a path that is spelled with slashes. -/
theorem not_mem_unixPath (s : String) : '\\' ∉ (unixPath s).toList := by
  rw [unixPath, String.toList_ofList, Text.replaceChar, List.mem_map]
  rintro ⟨c, -, same⟩
  split at same
  · contradiction
  · simp_all

@[simp] theorem unixPath_unixPath (s : String) : unixPath (unixPath s) = unixPath s :=
  unixPath_of_not_mem (not_mem_unixPath s)

namespace Path

/-- Whether a text has a character that keeps it among the parts of a path. -/
theorem isPart_of_mem {c : Char} {piece : List Char} (member : c ∈ piece) (dot : c ≠ '.') :
    (String.ofList piece != "" && String.ofList piece != ".") = true := by
  simp only [Bool.and_eq_true, bne_iff_ne, ne_eq]
  constructor
  · intro empty
    rw [← String.toList_inj] at empty
    simp only [String.toList_ofList, String.toList_empty] at empty
    simp [empty] at member
  · intro single
    rw [← String.toList_inj] at single
    simp only [String.toList_ofList] at single
    rw [single] at member
    exact dot (by simpa using member)

/-- An ending that is not made of dots, without a slash, ends the last part of a path. -/
theorem exists_parts_parse {s : String} {start ending : List Char} {c : Char}
    (spelled : s.toList = start ++ ending) (whole : '/' ∉ ending) (member : c ∈ ending)
    (dot : c ≠ '.') :
    ∃ before last, (parse s).parts = before ++ [String.ofList (last ++ ending)] := by
  obtain ⟨before, last, cut⟩ := @Text.exists_pieces_append '/' start ending whole
  have kept := isPart_of_mem (List.mem_append_right last member) dot
  refine ⟨(before.map String.ofList).filter fun part => part != "" && part != ".", last, ?_⟩
  simp only [parse, Text.splitAt, spelled, cut, List.map_append, List.map_cons, List.map_nil,
    List.filter_append, List.filter_cons, kept, if_true, List.filter_nil]

/-- A path from a root is spelled by the root and then its parts. -/
theorem text_mk {root : Root} (absolute : root ≠ .none) (parts : List String) :
    (mk root parts).text = root.text ++ "/".intercalate parts := by
  cases root with
  | none => exact (absolute rfl).elim
  | single => rfl
  | double => rfl

/-- The spelling of a path ends with its last part. -/
theorem exists_text_eq {root : Root} {before : List String} {last : String} :
    ∃ start, (Path.mk root (before ++ [last])).text.toList = start ++ last.toList := by
  have text : (Path.mk root (before ++ [last])).text =
      root.text ++ "/".intercalate (before ++ [last]) := by
    cases root <;> cases before <;> rfl
  rw [text]
  cases before with
  | nil => exact ⟨root.text.toList, by simp⟩
  | cons first before =>
      rw [String.intercalate_append_of_ne_nil (List.cons_ne_nil first before)
        (List.cons_ne_nil last [])]
      exact ⟨root.text.toList ++ ("/".intercalate (first :: before)).toList ++ ['/'], by simp⟩

/-- A name is cut at its last dot if something stands before it. -/
theorem stemAndSuffix_append {stem ending : List Char} (stem_ne : stem ≠ [])
    (ending_ne : ending ≠ []) (undotted : '.' ∉ ending) :
    stemAndSuffix (stem ++ '.' :: ending) = (stem, '.' :: ending) := by
  have letters : ∀ c ∈ ending.reverse, (c != '.') = true := by
    intro c member
    rw [bne_iff_ne]
    rintro rfl
    exact undotted (List.mem_reverse.mp member)
  have last : ((stem ++ '.' :: ending).reverse.takeWhile (· != '.')).reverse = ending := by
    rw [List.reverse_append, List.reverse_cons, List.append_assoc,
      List.takeWhile_append_of_pos letters]
    simp
  have before : (stem ++ '.' :: ending).take
      ((stem ++ '.' :: ending).length - ending.length - 1) = stem := by
    apply List.take_left'
    rw [List.length_append, List.length_cons]
    omega
  rw [stemAndSuffix]
  simp only [last, before]
  simp only [stem_ne, ending_ne, List.length_append, List.length_cons, beq_iff_eq,
    List.isEmpty_iff, Bool.or_eq_true, or_false]
  rw [if_neg (by omega)]

/-- A path whose spelling starts and ends with a letter has one part only if it has no slash. -/
theorem parse_of_letters {s : String} {c d : Char} {middle : List Char}
    (spelled : s.toList = c :: middle ++ [d]) (c_slash : c ≠ '/') (c_dot : c ≠ '.')
    (d_slash : d ≠ '/') (d_dot : d ≠ '.') :
    (parse s).root = .none ∧ ∃ first rest, (parse s).parts = first :: rest ∧
      first.toList.head? = some c ∧ (rest = [] → first = s) := by
  constructor
  · simp only [parse, spelled, List.cons_append]
    unfold rootOf
    split <;> simp_all
  · by_cases slash : '/' ∈ s.toList
    · obtain ⟨before, after, split, whole⟩ := List.eq_append_cons_of_mem slash
      have starts : before.head? = some c := by
        have same := congrArg List.head? (split.symm.trans spelled)
        cases before with
        | nil => exact (c_slash (by simpa using same.symm)).elim
        | cons => simpa using same
      have ends : after.getLast? = some d := by
        have same := congrArg List.getLast? (split.symm.trans spelled)
        rw [List.getLast?_append, List.getLast?_concat] at same
        cases after with
        | nil => exact (d_slash (by simpa using same.symm)).elim
        | cons head after => simpa [List.getLast?_cons_cons] using same
      have kept := isPart_of_mem (List.mem_of_head? starts) c_dot
      obtain ⟨piece, cut, found⟩ :=
        Text.exists_mem_pieces (List.mem_of_getLast? ends) d_slash
      refine ⟨String.ofList before, ((Text.pieces '/' after).map String.ofList).filter
        fun part => part != "" && part != ".", ?_, by simpa using starts, ?_⟩
      · simp only [parse, Text.splitAt, split, Text.pieces_append_cons,
          Text.pieces_of_not_mem whole, List.singleton_append, List.map_cons, List.filter_cons,
          kept, if_true]
      · intro none
        have member : String.ofList piece ∈ ((Text.pieces '/' after).map String.ofList).filter
            fun part => part != "" && part != "." :=
          List.mem_filter.mpr ⟨List.mem_map_of_mem cut, isPart_of_mem found d_dot⟩
        rw [none] at member
        contradiction
    · refine ⟨s, [], ?_, by simp [spelled], fun _ => rfl⟩
      have member : c ∈ s.toList := by simp [spelled]
      have kept := isPart_of_mem member c_dot
      rw [String.ofList_toList] at kept
      simp only [parse, Text.splitAt, Text.pieces_of_not_mem slash, List.map_cons, List.map_nil,
        String.ofList_toList, List.filter_cons, kept, if_true, List.filter_nil]

end Path

end Baseline
