import Baseline.Exclusion
import Baseline.Proofs.Text.Lowercase
import Baseline.Proofs.Text.Pieces

/-!
# The glob of a directory

The glob of everything below a directory is made of the spelling of the directory, as a pattern. It
matches every path below the directory, whatever the case of its letters, as long as the spelling
has no class of characters, no backslash and no single dot but at its start.
-/

namespace Baseline.Glob

open Text

variable {c : Char} {cs first : List Char} {patterns names more : List String}
  {pieces : List (List Char)} {name : String}

/-! ## Patterns that match themselves -/

theorem anySuffix_cons {α : Type} {accepts : List α → Bool} {l : List α} (a : α)
    (accepted : anySuffix accepts l = true) : anySuffix accepts (a :: l) = true := by
  rw [anySuffix, accepted, Bool.or_true]

theorem anySuffix_of_accepts {α : Type} {accepts : List α → Bool} {l : List α}
    (accepted : accepts l = true) : anySuffix accepts l = true :=
  anySuffix_iff.mpr ⟨[], l, rfl, accepted⟩

/-- A name without an opening bracket is covered by itself, its stars and question marks
included. -/
theorem covers_wildcards_self (plain : '[' ∉ cs) : covers (wildcards cs) cs = true := by
  induction cs with
  | nil => rfl
  | cons c cs induction =>
      simp only [List.mem_cons, not_or] at plain
      have covered := induction plain.2
      unfold wildcards at covered ⊢
      rw [wildcardsFrom.eq_def]
      dsimp only
      split
      next =>
        split
        next more places =>
          rw [places, covers] at covered
          rw [covers]
          exact anySuffix_cons _ covered
        next =>
          rw [covers]
          exact anySuffix_cons _ (anySuffix_of_accepts covered)
      next => simpa [covers, Wildcard.accepts] using covered
      next => exact (plain.1 rfl).elim
      next => simpa [covers, Wildcard.accepts] using covered

theorem matchesName_self (plain : '[' ∉ name.toList) : matchesName name name = true := by
  rw [matchesName_eq_covers]
  exact covers_wildcards_self plain

theorem matchesNames_globstar (patterns names : List String) :
    matchesNames (globstar :: patterns) names = anySuffix (matchesNames patterns) names := by
  rw [matchesNames.eq_def]
  exact if_pos (beq_self_eq_true globstar)

theorem matchesNames_cons {pattern : String} (single : pattern ≠ globstar) (name : String)
    (patterns names : List String) :
    matchesNames (pattern :: patterns) (name :: names) =
      (matchesName pattern name && matchesNames patterns names) := by
  rw [matchesNames.eq_def]
  exact if_neg (by simpa using single)

theorem matchesNames_nil {pattern : String} (single : pattern ≠ globstar)
    (patterns : List String) : matchesNames (pattern :: patterns) [] = false := by
  rw [matchesNames.eq_def]
  exact if_neg (by simpa using single)

/-- More matches of the patterns that follow are more matches of all patterns. -/
theorem matchesNames_cons_of_imp {pattern : String} {others : List String}
    (more : ∀ names, matchesNames patterns names = true → matchesNames others names = true)
    (matched : matchesNames (pattern :: patterns) names = true) :
    matchesNames (pattern :: others) names = true := by
  by_cases star : pattern = globstar
  · subst star
    rw [matchesNames_globstar] at matched ⊢
    obtain ⟨dropped, kept, rfl, rest⟩ := anySuffix_iff.mp matched
    exact anySuffix_iff.mpr ⟨dropped, kept, rfl, more kept rest⟩
  · cases names with
    | nil =>
        rw [matchesNames_nil star] at matched
        cases matched
    | cons name names =>
        rw [matchesNames_cons star, Bool.and_eq_true] at matched ⊢
        exact ⟨matched.1, more names matched.2⟩

/-- Merging neighbouring globstars loses no match. -/
theorem matchesNames_mergeGlobstars (matched : matchesNames patterns names = true) :
    matchesNames (mergeGlobstars patterns) names = true := by
  induction patterns generalizing names with
  | nil => exact matched
  | cons pattern patterns induction =>
      have kept := matchesNames_cons_of_imp (fun _ => induction) matched
      rw [mergeGlobstars]
      split
      next next others merged =>
        rw [merged] at kept
        split
        next stars =>
          -- Of two globstars the second one can take what both of them have taken.
          rw [Bool.and_eq_true, beq_iff_eq, beq_iff_eq] at stars
          obtain ⟨rfl, rfl⟩ := stars
          rw [matchesNames_globstar] at kept
          obtain ⟨dropped, names, rfl, rest⟩ := anySuffix_iff.mp kept
          rw [matchesNames_globstar] at rest ⊢
          obtain ⟨also, left, rfl, covered⟩ := anySuffix_iff.mp rest
          exact anySuffix_iff.mpr ⟨dropped ++ also, left, by rw [List.append_assoc], covered⟩
        next => exact kept
      next merged =>
        rw [merged] at kept
        exact kept

/-- Names, then anything below them, match what is below these names. -/
theorem matchesNames_inside (plain : ∀ name ∈ names, '[' ∉ name.toList) (below : more ≠ []) :
    matchesNames (names ++ [globstar, "*"]) (names ++ more) = true := by
  induction names with
  | nil =>
      rw [List.nil_append, List.nil_append, matchesNames_globstar]
      obtain ⟨dropped, last, rfl⟩ := List.eq_nil_or_concat more |>.resolve_left below
      refine anySuffix_iff.mpr ⟨dropped, [last], by simp, ?_⟩
      have star : matchesName "*" last = true := by
        rw [matchesName_eq_covers, show wildcards "*".toList = [.run] from rfl, covers]
        exact anySuffix_iff.mpr ⟨last.toList, [], by simp, rfl⟩
      rw [matchesNames_cons (by decide), star]
      rfl
  | cons name names induction =>
      obtain ⟨here, others⟩ := List.forall_mem_cons.mp plain
      have rest := induction others
      rw [List.cons_append, List.cons_append]
      by_cases star : name = globstar
      · subst star
        rw [matchesNames_globstar]
        exact anySuffix_cons _ (anySuffix_of_accepts rest)
      · rw [matchesNames_cons star, matchesName_self here, rest]
        rfl

/-! ## Merged slashes -/

theorem mergeSlashesFrom_of_ne (differs : c ≠ '/') (after : Bool) (rest : List Char) :
    mergeSlashesFrom after (c :: rest) = c :: mergeSlashesFrom false rest := by
  have other : (c == '/') = false := by simpa using differs
  simp [mergeSlashesFrom, other]

theorem mergeSlashesFrom_append (whole : '/' ∉ first) (some : first ≠ []) (after : Bool)
    (second : List Char) :
    mergeSlashesFrom after (first ++ '/' :: second) =
      first ++ '/' :: mergeSlashesFrom true second := by
  induction first generalizing after with
  | nil => exact (some rfl).elim
  | cons c first induction =>
      rw [List.mem_cons, not_or] at whole
      rw [List.cons_append, mergeSlashesFrom_of_ne (Ne.symm whole.1)]
      cases first with
      | nil => rfl
      | cons d first =>
          rw [induction whole.2 (by simp)]
          rfl

theorem mergeSlashesFrom_of_not_mem (whole : '/' ∉ cs) (after : Bool) :
    mergeSlashesFrom after cs = cs := by
  induction cs generalizing after with
  | nil => rfl
  | cons c cs induction =>
      rw [List.mem_cons, not_or] at whole
      rw [mergeSlashesFrom_of_ne (Ne.symm whole.1), induction whole.2]

/-- A last character that is no slash stays the last one. -/
theorem mergeSlashesFrom_concat (differs : c ≠ '/') (after : Bool) (cs : List Char) :
    mergeSlashesFrom after (cs ++ [c]) = mergeSlashesFrom after cs ++ [c] := by
  induction cs generalizing after with
  | nil => exact mergeSlashesFrom_of_ne differs after []
  | cons d cs induction =>
      rw [List.cons_append, mergeSlashesFrom, mergeSlashesFrom]
      split
      · exact induction true
      · rw [induction, List.cons_append]

theorem head?_of_mergeSlashesFrom (differs : c ≠ '/')
    (slash : (mergeSlashesFrom false (cs ++ [c])).head? = some '/') : cs.head? = some '/' := by
  cases cs with
  | nil =>
      rw [List.nil_append, mergeSlashesFrom_of_ne differs] at slash
      exact (differs (Option.some.inj slash)).elim
  | cons d cs =>
      by_cases same : d = '/'
      · rw [same]
        rfl
      · rw [List.cons_append, mergeSlashesFrom_of_ne same] at slash
        exact slash

/-- Where slashes are merged, the pieces between them are the pieces that are not empty. -/
theorem pieces_mergeSlashesFrom (differs : c ≠ '/') (cs : List Char) :
    Text.pieces '/' (mergeSlashesFrom true (cs ++ [c])) =
      (Text.pieces '/' (cs ++ [c])).filter (· ≠ []) := by
  by_cases slash : '/' ∈ cs
  · obtain ⟨first, second, parted, whole⟩ := List.eq_append_cons_of_mem slash
    have shorter : second.length < cs.length := by
      rw [parted, List.length_append, List.length_cons]
      omega
    have rest := pieces_mergeSlashesFrom differs second
    rw [parted, List.append_assoc, List.cons_append, pieces_append_cons, pieces_of_not_mem whole]
    by_cases empty : first = []
    · subst empty
      rw [List.nil_append, mergeSlashesFrom]
      simpa using rest
    · rw [mergeSlashesFrom_append whole empty, pieces_append_cons, pieces_of_not_mem whole, rest]
      simp [empty]
  · have whole : '/' ∉ cs ++ [c] := by simp [slash, Ne.symm differs]
    rw [mergeSlashesFrom_of_not_mem whole, pieces_of_not_mem whole]
    simp
termination_by cs.length
decreasing_by exact shorter

/-! ## Names along a path -/

/-- A text that starts with names, each with a slash after it. -/
def along (names : List (List Char)) (rest : List Char) : List Char :=
  names.foldr (fun name rest => name ++ '/' :: rest) rest

theorem along_cons (name : List Char) (names : List (List Char)) (rest : List Char) :
    along (name :: names) rest = name ++ '/' :: along names rest := rfl

theorem lower_along (names : List (List Char)) (rest : List Char) :
    lower (along names rest) = along (names.map lower) (lower rest) := by
  induction names with
  | nil => rfl
  | cons name names induction =>
      rw [along_cons, lower_append_slash, induction, List.map_cons, along_cons]

theorem replaceChar_along {names : List (List Char)} (plain : ∀ name ∈ names, '\\' ∉ name)
    (rest : List Char) :
    replaceChar '\\' '/' (along names rest) = along names (replaceChar '\\' '/' rest) := by
  induction names with
  | nil => rfl
  | cons name names induction =>
      obtain ⟨here, others⟩ := List.forall_mem_cons.mp plain
      rw [along_cons, along_cons, ← induction others, replaceChar, List.map_append]
      exact congrArg (· ++ _) (replaceChar_of_not_mem here)

/-- The pieces of a text along names are these names and some more. -/
theorem exists_pieces_along {names : List (List Char)}
    (names_ne : ∀ name ∈ names, name ≠ [] ∧ '/' ∉ name) (rest : List Char) (after : Bool) :
    ∃ more, more ≠ [] ∧
      Text.pieces '/' (mergeSlashesFrom after (along names rest)) = names ++ more := by
  induction names generalizing after with
  | nil => exact ⟨_, piecesBy_ne_nil _ _, rfl⟩
  | cons name names induction =>
      obtain ⟨⟨some, whole⟩, others⟩ := List.forall_mem_cons.mp names_ne
      obtain ⟨more, more_ne, cut⟩ := induction others true
      refine ⟨more, more_ne, ?_⟩
      rw [along_cons, mergeSlashesFrom_append whole some, pieces_append_cons,
        pieces_of_not_mem whole, cut]
      rfl

theorem lower_ne_nil (some : cs ≠ []) : lower cs ≠ [] := by
  cases cs with
  | nil => exact (some rfl).elim
  | cons c cs =>
      rw [lower, lowerFrom_cons]
      exact List.append_ne_nil_of_left_ne_nil (formAt_ne_nil false c cs) _

/-- The names of a path along names are their lower forms and some more. -/
theorem exists_namesOf_along {names : List (List Char)}
    (names_ne : ∀ name ∈ names, name ≠ [] ∧ '/' ∉ name) (plain : ∀ name ∈ names, '\\' ∉ name)
    (rest : List Char) :
    ∃ more, more ≠ [] ∧ namesOf true (String.ofList (along names rest)) =
      names.map (fun name => String.ofList (lower name)) ++ more := by
  have lowered : ∀ name ∈ names.map lower, name ≠ [] ∧ '/' ∉ name := by
    rw [List.forall_mem_map]
    intro name member
    obtain ⟨some, whole⟩ := names_ne name member
    exact ⟨lower_ne_nil some, fun slash => whole (mem_of_mem_lowerFrom (by decide) slash)⟩
  obtain ⟨more, more_ne, cut⟩ :=
    exists_pieces_along lowered (lower (replaceChar '\\' '/' rest)) false
  refine ⟨more.map String.ofList, by simpa using more_ne, ?_⟩
  rw [namesOf, String.toList_ofList, replaceChar_along plain, if_pos rfl, lower_along, mergeSlashes,
    cut, List.map_append, List.map_map]
  rfl

/-! ## The glob of a directory -/

/-- The names in the spelling of a directory: the pieces between slashes but for empty ones and
single dots. -/
def directoryNames (cs : List Char) : List (List Char) :=
  (Text.pieces '/' cs).filter fun piece => piece ≠ [] ∧ piece ≠ ['.']

theorem parts_parse (s : String) :
    (Path.parse s).parts = (directoryNames s.toList).map String.ofList := by
  rw [Path.parse, directoryNames, splitAt, List.filter_map]
  refine congrArg (List.map String.ofList) (List.filter_congr fun piece _ => ?_)
  rw [Bool.eq_iff_iff]
  simp [← String.toList_inj]

theorem trim_of_ends {d : Char} (opens : isBlank c = false) (ends : isBlank d = false)
    (middle : List Char) : trim (c :: (middle ++ [d])) = c :: (middle ++ [d]) := by
  simp [trim, trimLeft, trimRight, opens, ends]

theorem exists_pieces_cons (differs : c ≠ '/') (cs : List Char) :
    ∃ piece others, Text.pieces '/' cs = piece :: others ∧
      Text.pieces '/' (c :: cs) = (c :: piece) :: others := by
  have other : (c == '/') = false := by simpa using differs
  cases cut : Text.pieces '/' cs with
  | nil => exact (piecesBy_ne_nil _ _ cut).elim
  | cons piece others =>
      refine ⟨piece, others, rfl, ?_⟩
      unfold Text.pieces at cut ⊢
      rw [piecesBy, cut, other]
      rfl

/-- A piece of one character at the start of a text ends with the text or before a slash. -/
theorem of_pieces_eq_singleton_cons {d : Char} (relative : c ≠ '/')
    (cut : Text.pieces '/' (c :: cs) = [d] :: pieces) :
    c = d ∧ (cs = [] ∨ cs.head? = some '/') := by
  obtain ⟨piece, others, rest, whole⟩ := exists_pieces_cons relative cs
  rw [whole] at cut
  obtain ⟨rfl, rfl⟩ := List.cons.inj (List.cons.inj cut).1
  refine ⟨rfl, ?_⟩
  cases cs with
  | nil => exact .inl rfl
  | cons e cs =>
      by_cases slash : e = '/'
      · exact .inr (by rw [slash]; rfl)
      · obtain ⟨_, _, _, starts⟩ := exists_pieces_cons slash cs
        rw [starts] at rest
        cases rest

/-- Pieces without single dots are names where they are not empty. -/
theorem filter_of_dotless (dotless : ['.'] ∉ pieces) :
    pieces.filter (· ≠ []) = pieces.filter fun piece => piece ≠ [] ∧ piece ≠ ['.'] := by
  refine List.filter_congr fun piece member => ?_
  have name : piece ≠ ['.'] := by
    rintro rfl
    exact dotless member
  simp [name]

/-- The text without a dot and a slash at its start. -/
def withoutDot : List Char → List Char
  | '.' :: '/' :: rest => rest
  | cs => cs

theorem withoutDot_of_ne (kept : ∀ rest, cs ≠ '.' :: '/' :: rest) : withoutDot cs = cs := by
  unfold withoutDot
  split
  next rest => exact (kept rest rfl).elim
  next => rfl

theorem getLast?_withoutDot (last : cs.getLast? ≠ some '/') :
    (withoutDot cs).getLast? = cs.getLast? := by
  unfold withoutDot
  split
  next rest =>
    cases rest with
    | nil => exact (last rfl).elim
    | cons d rest => rw [List.getLast?_cons_cons, List.getLast?_cons_cons]
  next => rfl

section Starred

/-! A pattern that opens with a character that is neither blank nor a slash and ends with a star. -/

variable {middle : List Char}

theorem normalized_of_starred (opens : isBlank c = false) (relative : c ≠ '/')
    (slashes : '\\' ∉ c :: (middle ++ ['*'])) :
    normalized (String.ofList (c :: (middle ++ ['*']))) =
      some (withoutDot (mergeSlashesFrom true (c :: (middle ++ ['*'])))) := by
  have last : (mergeSlashesFrom true (c :: (middle ++ ['*']))).getLast? ≠ some '/' := by
    rw [← List.cons_append, mergeSlashesFrom_concat (by decide), List.getLast?_concat]
    decide
  have some : mergeSlashesFrom true (c :: (middle ++ ['*'])) ≠ [] := by
    simp [mergeSlashesFrom_of_ne relative]
  have closed := getLast?_withoutDot last ▸ last
  rw [normalized, String.toList_ofList, trim_of_ends opens (by decide),
    replaceChar_of_not_mem slashes, mergeSlashes, mergeSlashesFrom_of_ne relative false,
    ← mergeSlashesFrom_of_ne relative true]
  generalize mergeSlashesFrom true (c :: (middle ++ ['*'])) = text at some closed
  split
  next => exact (some rfl).elim
  next =>
    refine congrArg Option.some (if_neg ?_)
    change ¬((withoutDot text).getLast? == .some '/') = true
    simpa using closed

/-- The first piece is a single dot only where the text opens with a dot and a slash. -/
theorem dotless_pieces (relative : c ≠ '/') (undotted : ¬(c = '.' ∧ middle.head? = some '/'))
    (dotless : ['.'] ∉ (Text.pieces '/' (c :: (middle ++ ['*']))).tail) :
    ['.'] ∉ Text.pieces '/' (c :: (middle ++ ['*'])) := by
  intro member
  cases cut : Text.pieces '/' (c :: (middle ++ ['*'])) with
  | nil => exact piecesBy_ne_nil _ _ cut
  | cons head tail =>
      rw [cut] at member dotless
      rcases List.mem_cons.mp member with rfl | member
      · obtain ⟨rfl, slash⟩ := of_pieces_eq_singleton_cons relative cut
        rcases slash with none | slash
        · simp at none
        · cases middle with
          | nil => cases slash
          | cons d more => exact undotted ⟨rfl, slash⟩
      · exact dotless member

/-- Its normal form has its names as pieces, if it has no single dot among its later pieces. -/
theorem pieces_withoutDot (relative : c ≠ '/')
    (dotless : ['.'] ∉ (Text.pieces '/' (c :: (middle ++ ['*']))).tail) :
    Text.pieces '/' (withoutDot (mergeSlashesFrom true (c :: (middle ++ ['*'])))) =
      directoryNames (c :: (middle ++ ['*'])) := by
  have star (cs : List Char) := pieces_mergeSlashesFrom (c := '*') (by decide) cs
  by_cases dot : c = '.' ∧ middle.head? = some '/'
  · -- The dot is dropped with its slash.
    obtain ⟨rfl, slash⟩ := dot
    obtain ⟨more, rfl⟩ := List.head?_eq_some_iff.mp slash
    have cut : Text.pieces '/' ('.' :: ('/' :: more ++ ['*'])) =
        ['.'] :: Text.pieces '/' (more ++ ['*']) := rfl
    rw [cut, List.tail_cons] at dotless
    rw [show withoutDot (mergeSlashesFrom true ('.' :: ('/' :: more ++ ['*']))) =
        mergeSlashesFrom true (more ++ ['*']) from rfl,
      star, filter_of_dotless dotless, directoryNames, cut]
    simp
  · -- No piece is a dot, so the empty pieces are all that is dropped.
    have kept : ∀ rest, mergeSlashesFrom true (c :: (middle ++ ['*'])) ≠ '.' :: '/' :: rest := by
      intro rest same
      rw [mergeSlashesFrom_of_ne relative] at same
      obtain ⟨rfl, follows⟩ := List.cons.inj same
      refine dot ⟨rfl, head?_of_mergeSlashesFrom (c := '*') (by decide) ?_⟩
      rw [follows]
      rfl
    rw [withoutDot_of_ne kept, ← List.cons_append, star, List.cons_append,
      filter_of_dotless (dotless_pieces relative dot dotless), directoryNames]

end Starred

/-- A piece of a text has characters of the text, and no slash. -/
theorem of_mem_pieces {piece : List Char} (member : piece ∈ Text.pieces '/' cs) :
    '/' ∉ piece ∧ piece ⊆ cs := by
  induction cs generalizing piece with
  | nil =>
      obtain rfl : piece = [] := by simpa [Text.pieces, piecesBy] using member
      exact ⟨List.not_mem_nil, fun _ => id⟩
  | cons c cs induction =>
      by_cases slash : c = '/'
      · have cut : Text.pieces '/' (c :: cs) = [] :: Text.pieces '/' cs := by
          rw [slash]
          rfl
        rw [cut] at member
        rcases List.mem_cons.mp member with rfl | member
        · exact ⟨List.not_mem_nil, List.nil_subset _⟩
        · obtain ⟨whole, within⟩ := induction member
          exact ⟨whole, List.subset_cons_of_subset c within⟩
      · obtain ⟨first, others, rest, cut⟩ := exists_pieces_cons slash cs
        rw [cut] at member
        rw [rest] at induction
        rcases List.mem_cons.mp member with rfl | member
        · obtain ⟨whole, within⟩ := induction List.mem_cons_self
          exact ⟨by simp [whole, Ne.symm slash], List.cons_subset_cons c within⟩
        · obtain ⟨whole, within⟩ := induction (List.mem_cons_of_mem _ member)
          exact ⟨whole, List.subset_cons_of_subset c within⟩

theorem of_mem_directoryNames {piece : List Char} (member : piece ∈ directoryNames cs) :
    piece ≠ [] ∧ '/' ∉ piece ∧ piece ⊆ cs := by
  obtain ⟨member, name⟩ := List.mem_filter.mp member
  exact ⟨(of_decide_eq_true name).1, of_mem_pieces member⟩

theorem directoryNames_append (first second : List Char) :
    directoryNames (first ++ '/' :: second) = directoryNames first ++ directoryNames second := by
  rw [directoryNames, pieces_append_cons, List.filter_append, directoryNames, directoryNames]

/-- A spelling of a directory that says the same as a pattern: it is relative, has no class of
characters and no backslash, and no single dot but at its start. -/
structure IsPlain (directory : String) : Prop where
  relative : directory.toList.head? ≠ some '/'
  dotless : ['.'] ∉ (Text.pieces '/' directory.toList).tail
  literal : '[' ∉ directory.toList ∧ '\\' ∉ directory.toList

/-- The glob of a plain directory matches what is below its names. -/
theorem matches_insideGlob {directory : String} (plain : IsPlain directory) {start : List Char}
    (spelled : directory.toList = c :: start) (opens : isBlank c = false) (rest : List Char) :
    ∃ rule, Rule.ofPattern? true true (insideGlob directory) = some rule ∧
      rule.matches (String.ofList (along (directoryNames directory.toList) rest)) = true := by
  obtain ⟨relative, dotless, noClass, noBackslash⟩ := plain
  have glob :
      insideGlob directory = String.ofList (c :: (start ++ ['/', '*', '*', '/'] ++ ['*'])) := by
    rw [← String.toList_inj, insideGlob, String.toList_append, spelled]
    simp
  have whole : c :: (start ++ ['/', '*', '*', '/'] ++ ['*']) =
      directory.toList ++ '/' :: (['*', '*'] ++ '/' :: ['*']) := by
    simp [spelled]
  have names : directoryNames (c :: (start ++ ['/', '*', '*', '/'] ++ ['*'])) =
      directoryNames directory.toList ++ [['*', '*'], ['*']] := by
    rw [whole, directoryNames_append]
    rfl
  have relative : c ≠ '/' := by simpa [spelled] using relative
  obtain ⟨cs, normal, cut⟩ : ∃ cs, normalized (insideGlob directory) = some cs ∧
      Text.pieces '/' cs = directoryNames directory.toList ++ [['*', '*'], ['*']] := by
    rw [glob, ← names]
    refine ⟨_, normalized_of_starred opens relative ?_, pieces_withoutDot relative ?_⟩
    · rw [whole]
      simp [noBackslash]
    · have some : Text.pieces '/' directory.toList ≠ [] := piecesBy_ne_nil _ _
      rw [whole, pieces_append_cons, List.tail_append_of_ne_nil some, List.mem_append, not_or]
      exact ⟨dotless, by decide⟩
  have slash : '/' ∈ cs := by
    refine Decidable.byContradiction fun none => ?_
    rw [pieces_of_not_mem none] at cut
    have lengths := congrArg List.length cut
    rw [List.length_append] at lengths
    simp at lengths
  obtain ⟨more, more_ne, below⟩ := exists_namesOf_along
    (fun name member => ⟨(of_mem_directoryNames member).1, (of_mem_directoryNames member).2.1⟩)
    (fun name member slashed => noBackslash ((of_mem_directoryNames member).2.2 slashed)) rest
  have segments : (Text.pieces '/' (lower cs)).map String.ofList =
      (directoryNames directory.toList).map (fun name => String.ofList (lower name)) ++
        [globstar, "*"] := by
    rw [pieces_lower, cut, List.map_append, List.map_append, List.map_map]
    rfl
  refine ⟨⟨String.ofList cs, mergeGlobstars ((Text.pieces '/' (lower cs)).map String.ofList), true,
    false⟩, by simp [Rule.ofPattern?, normal, slash], ?_⟩
  change matchesNames _ (namesOf true _) = true
  rw [segments, below]
  refine matchesNames_mergeGlobstars (matchesNames_inside ?_ more_ne)
  rw [List.forall_mem_map]
  intro name member bracket
  rw [String.toList_ofList] at bracket
  exact noClass ((of_mem_directoryNames member).2.2 (mem_of_mem_lowerFrom (by decide) bracket))

end Baseline.Glob
