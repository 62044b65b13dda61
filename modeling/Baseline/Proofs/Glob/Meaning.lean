import Baseline.Proofs.Glob.Inside
import Mathlib.Data.List.Forall2

/-!
# What a glob means

A glob is read as segments, and so is a path. The glob matches the path if the segments of the path
can be cut into runs, one for each segment of the glob: a globstar takes any run, and every other
segment one name. Nothing is said about how such a cut is looked for, and neighbouring globstars
stay as they are written.
-/

namespace Baseline.Glob

open Text

variable {c : Char} {cs first : List Char} {pieces rest : List (List Char)}
  {pattern path : String} {patterns names run : List String} {ignoresCase matchesBase : Bool}

/-! ## Runs of names -/

/-- A globstar takes any run of names, and any other pattern one name that it matches. -/
def Fits (pattern : String) (run : List String) : Prop :=
  pattern = globstar ∨ ∃ name, run = [name] ∧ matchesName pattern name = true

/-- The names are runs one after the other, one that each of the patterns takes. -/
def Covers (patterns names : List String) : Prop :=
  ∃ runs, List.Forall₂ Fits patterns runs ∧ runs.flatten = names

theorem covers_nil_iff : Covers [] names ↔ names = [] := by
  constructor
  · rintro ⟨runs, each, rfl⟩
    cases each
    rfl
  · rintro rfl
    exact ⟨[], .nil, rfl⟩

theorem covers_cons_iff :
    Covers (pattern :: patterns) names ↔
      ∃ run others, names = run ++ others ∧ Fits pattern run ∧ Covers patterns others := by
  constructor
  · rintro ⟨runs, each, rfl⟩
    cases each with
    | cons taken each => exact ⟨_, _, rfl, taken, _, each, rfl⟩
  · rintro ⟨run, others, rfl, taken, runs, each, rfl⟩
    exact ⟨run :: runs, .cons taken each, rfl⟩

theorem fits_globstar (run : List String) : Fits globstar run :=
  .inl rfl

theorem fits_iff_of_ne (single : pattern ≠ globstar) :
    Fits pattern run ↔ ∃ name, run = [name] ∧ matchesName pattern name = true :=
  or_iff_right single

/-- Trying the ends of a run one after the other finds a cut if there is one. -/
theorem matchesNames_iff_covers : matchesNames patterns names = true ↔ Covers patterns names := by
  induction patterns generalizing names with
  | nil => rw [covers_nil_iff, matchesNames, List.isEmpty_iff]
  | cons pattern patterns induction =>
      rw [covers_cons_iff]
      by_cases star : pattern = globstar
      · subst star
        rw [matchesNames_globstar, anySuffix_iff]
        simp only [induction, fits_globstar, true_and]
      · simp only [fits_iff_of_ne star]
        -- Here the run is a single name, the first.
        cases names with
        | nil =>
            rw [matchesNames_nil star]
            simp
        | cons name names =>
            rw [matchesNames_cons star, Bool.and_eq_true, induction]
            constructor
            · rintro ⟨matched, covered⟩
              exact ⟨[name], names, rfl, ⟨name, rfl, matched⟩, covered⟩
            · rintro ⟨_, others, parted, ⟨only, rfl, matched⟩, covered⟩
              obtain ⟨rfl, rfl⟩ := List.cons.inj parted
              exact ⟨matched, covered⟩

/-- Two globstars take no more than one. -/
theorem covers_globstars_iff :
    Covers (globstar :: globstar :: patterns) names ↔ Covers (globstar :: patterns) names := by
  simp only [covers_cons_iff, fits_globstar, true_and]
  constructor
  · rintro ⟨run, _, rfl, more, others, rfl, covered⟩
    exact ⟨run ++ more, others, (List.append_assoc _ _ _).symm, covered⟩
  · rintro ⟨run, others, rfl, covered⟩
    exact ⟨run, others, rfl, [], others, rfl, covered⟩

theorem covers_mergeGlobstars_iff :
    Covers (mergeGlobstars patterns) names ↔ Covers patterns names := by
  induction patterns generalizing names with
  | nil => rfl
  | cons pattern patterns induction =>
      have kept : Covers (pattern :: mergeGlobstars patterns) names ↔
          Covers (pattern :: patterns) names := by
        simp only [covers_cons_iff, induction]
      rw [← kept, mergeGlobstars]
      split
      next next others merged =>
        rw [merged]
        split
        next stars =>
          rw [Bool.and_eq_true, beq_iff_eq, beq_iff_eq] at stars
          obtain ⟨rfl, rfl⟩ := stars
          exact covers_globstars_iff.symm
        next => rfl
      next merged => rw [merged]

/-! ## Segments -/

/-- The pieces without the empty ones, but for one at the end. -/
def withoutEmpty : List (List Char) → List (List Char)
  | [] => []
  | [piece] => [piece]
  | piece :: rest => if piece = [] then withoutEmpty rest else piece :: withoutEmpty rest

/-- The pieces of a text between slashes, a backslash being one too. Where slashes follow each
other there is no piece between them. -/
def segments (cs : List Char) : List (List Char) :=
  match Text.pieces '/' (replaceChar '\\' '/' cs) with
  | [] => []
  | first :: rest => first :: withoutEmpty rest

/-- A single dot before other segments is left out. -/
def withoutLeadingDot : List (List Char) → List (List Char)
  | ['.'] :: second :: rest => second :: rest
  | segments => segments

/-- An empty segment after other ones stands for a globstar. -/
def withFinalStars (segments : List (List Char)) : List (List Char) :=
  if 1 < segments.length ∧ segments.getLast? = some [] then
    segments.dropLast ++ [globstar.toList]
  else segments

/-- A segment as it is compared. -/
def compared (ignoresCase : Bool) (segment : List Char) : String :=
  String.ofList (if ignoresCase then lower segment else segment)

/-- The segments of a pattern, which is trimmed first. -/
def patternSegments (ignoresCase : Bool) (pattern : String) : List String :=
  (withFinalStars (withoutLeadingDot (segments (trim pattern.toList)))).map (compared ignoresCase)

/-- The segments of a path. -/
def pathSegments (ignoresCase : Bool) (path : String) : List String :=
  (segments path.toList).map (compared ignoresCase)

/-- A pattern means a path: it is not blank, and its segments cover those of the path. Where single
segments may match anywhere, a pattern of one segment means a path with a name that it matches. -/
def Means (ignoresCase matchesBase : Bool) (pattern path : String) : Prop :=
  trim pattern.toList ≠ [] ∧
    if matchesBase = true ∧ (patternSegments ignoresCase pattern).length = 1 then
      ∃ segment ∈ patternSegments ignoresCase pattern,
        ∃ name ∈ pathSegments ignoresCase path, name ≠ "" ∧ matchesName segment name = true
    else Covers (patternSegments ignoresCase pattern) (pathSegments ignoresCase path)

/-! ## Reading segments -/

theorem withoutEmpty_cons_of_ne {piece : List Char} (some : piece ≠ []) (rest : List (List Char)) :
    withoutEmpty (piece :: rest) = piece :: withoutEmpty rest := by
  cases rest with
  | nil => rfl
  | cons second rest => simp [withoutEmpty, some]

theorem withoutEmpty_nil_cons (some : rest ≠ []) : withoutEmpty ([] :: rest) = withoutEmpty rest := by
  cases rest with
  | nil => exact (some rfl).elim
  | cons second rest => simp [withoutEmpty]

theorem withoutEmpty_map_lower (pieces : List (List Char)) :
    withoutEmpty (pieces.map lower) = (withoutEmpty pieces).map lower := by
  induction pieces with
  | nil => rfl
  | cons piece pieces induction =>
      by_cases empty : piece = []
      · subst empty
        cases pieces with
        | nil => rfl
        | cons second pieces =>
            rw [List.map_cons, lower_nil, withoutEmpty_nil_cons (by simp), induction,
              withoutEmpty_nil_cons (by simp)]
      · rw [List.map_cons, withoutEmpty_cons_of_ne (lower_ne_nil empty), induction,
          withoutEmpty_cons_of_ne empty, List.map_cons]

theorem exists_pieces_eq_cons (cs : List Char) :
    ∃ first rest, Text.pieces '/' cs = first :: rest :=
  List.exists_cons_of_ne_nil (piecesBy_ne_nil _ _)

/-- Merging runs of slashes takes out the empty pieces between them. -/
theorem pieces_mergeSlashesFrom_of_pieces (cut : Text.pieces '/' cs = first :: rest) :
    Text.pieces '/' (mergeSlashesFrom false cs) = first :: withoutEmpty rest ∧
      Text.pieces '/' (mergeSlashesFrom true cs) = withoutEmpty (first :: rest) := by
  -- After a slash the first piece may be dropped too, and either state leads to the other.
  induction cs generalizing first rest with
  | nil =>
      obtain ⟨rfl, rfl⟩ := List.cons.inj cut
      exact ⟨rfl, rfl⟩
  | cons c cs induction =>
      by_cases slash : c = '/'
      · subst slash
        obtain ⟨head, tail, parted⟩ := exists_pieces_eq_cons cs
        obtain ⟨rfl, rfl⟩ : [] = first ∧ Text.pieces '/' cs = rest := List.cons.inj cut
        have merged : Text.pieces '/' (mergeSlashesFrom true cs) =
            withoutEmpty (Text.pieces '/' cs) := by
          rw [parted]
          exact (induction parted).2
        constructor
        · exact congrArg ([] :: ·) merged
        · rw [withoutEmpty_nil_cons (by simp [parted])]
          exact merged
      · obtain ⟨piece, others, cutRest, whole⟩ := exists_pieces_cons slash cs
        rw [whole] at cut
        obtain ⟨rfl, rfl⟩ := List.cons.inj cut
        rw [mergeSlashesFrom_of_ne slash, mergeSlashesFrom_of_ne slash,
          withoutEmpty_cons_of_ne (List.cons_ne_nil _ _), and_self]
        obtain ⟨_, _, mergedRest, merged⟩ := exists_pieces_cons slash (mergeSlashesFrom false cs)
        rw [(induction cutRest).1] at mergedRest
        obtain ⟨rfl, rfl⟩ := List.cons.inj mergedRest
        exact merged

theorem pieces_mergeSlashes (cs : List Char) :
    Text.pieces '/' (mergeSlashes (replaceChar '\\' '/' cs)) = segments cs := by
  obtain ⟨first, rest, cut⟩ := exists_pieces_eq_cons (replaceChar '\\' '/' cs)
  rw [segments, cut]
  exact (pieces_mergeSlashesFrom_of_pieces cut).1

/-- The names of a path are its segments. -/
theorem namesOf_eq (ignoresCase : Bool) (path : String) :
    namesOf ignoresCase path = pathSegments ignoresCase path := by
  rw [pathSegments, ← pieces_mergeSlashes, namesOf]
  cases ignoresCase with
  | false => rfl
  | true =>
      obtain ⟨first, rest, cut⟩ := exists_pieces_eq_cons (replaceChar '\\' '/' path.toList)
      have lowered : Text.pieces '/' (lower (replaceChar '\\' '/' path.toList)) =
          lower first :: rest.map lower := by
        rw [pieces_lower, cut, List.map_cons]
      simp only [if_true, mergeSlashes, (pieces_mergeSlashesFrom_of_pieces cut).1,
        (pieces_mergeSlashesFrom_of_pieces lowered).1, withoutEmpty_map_lower, List.map_cons,
        List.map_map]
      rfl

theorem pieces_withoutDot_eq (cs : List Char) :
    Text.pieces '/' (withoutDot cs) = withoutLeadingDot (Text.pieces '/' cs) := by
  unfold withoutDot
  split
  next rest =>
    obtain ⟨first, others, cut⟩ := exists_pieces_eq_cons rest
    have whole : Text.pieces '/' ('.' :: '/' :: rest) = ['.'] :: Text.pieces '/' rest := rfl
    rw [whole, cut, withoutLeadingDot]
  next undotted =>
    unfold withoutLeadingDot
    split
    next second rest cut =>
      cases cs with
      | nil => cases cut
      | cons c cs =>
          have relative : c ≠ '/' := by
            rintro rfl
            cases cut
          obtain ⟨rfl, rfl | slash⟩ := of_pieces_eq_singleton_cons relative cut
          · cases cut
          · obtain ⟨rest, rfl⟩ := List.head?_eq_some_iff.mp slash
            exact (undotted rest rfl).elim
    next => rfl

theorem pieces_append_globstar (cs : List Char) :
    Text.pieces '/' (if cs.getLast? == some '/' then cs ++ globstar.toList else cs) =
      withFinalStars (Text.pieces '/' cs) := by
  rcases List.eq_nil_or_concat cs with rfl | ⟨start, last, rfl⟩
  · rfl
  · rw [List.concat_eq_append, List.getLast?_concat]
    by_cases slash : last = '/'
    · subst slash
      have some : Text.pieces '/' start ≠ [] := piecesBy_ne_nil _ _
      have ends : Text.pieces '/' (start ++ ['/']) = Text.pieces '/' start ++ [[]] :=
        pieces_append_cons
      have several : 1 < (Text.pieces '/' start ++ [[]]).length := by
        have := List.length_pos_of_ne_nil some
        simpa using this
      rw [if_pos (by simp), ends, withFinalStars, if_pos ⟨several, List.getLast?_concat⟩,
        List.dropLast_concat, List.append_assoc]
      exact pieces_append_cons
    · obtain ⟨before, piece, cut⟩ :=
        @exists_pieces_append '/' start [last] (by simp [Ne.symm slash])
      rw [if_neg (by simpa using slash), withFinalStars, cut, if_neg (by simp)]

/-- A pattern that is not blank is normalized to a text with its segments. -/
theorem exists_normalized (some : trim pattern.toList ≠ []) :
    ∃ cs, normalized pattern = .some cs ∧
      Text.pieces '/' cs = withFinalStars (withoutLeadingDot (segments (trim pattern.toList))) := by
  have merged : mergeSlashes (replaceChar '\\' '/' (trim pattern.toList)) ≠ [] := by
    obtain ⟨c, cs, trimmed⟩ := List.exists_cons_of_ne_nil some
    rw [trimmed]
    simp [replaceChar, mergeSlashes, mergeSlashesFrom]
  rw [← pieces_mergeSlashes, ← pieces_withoutDot_eq, ← pieces_append_globstar, normalized]
  refine ⟨_, ?_, rfl⟩
  split
  next empty => exact (merged empty).elim
  next => rfl

theorem normalized_of_blank (blank : trim pattern.toList = []) : normalized pattern = none := by
  rw [normalized, blank]
  rfl

theorem contains_slash_eq (cs : List Char) :
    cs.contains '/' = decide ((Text.pieces '/' cs).length ≠ 1) := by
  by_cases slash : '/' ∈ cs
  · obtain ⟨before, after, rfl, -⟩ := List.eq_append_cons_of_mem slash
    have first := List.length_pos_of_ne_nil (piecesBy_ne_nil (· == '/') before)
    have second := List.length_pos_of_ne_nil (piecesBy_ne_nil (· == '/') after)
    have several : (Text.pieces '/' (before ++ '/' :: after)).length ≠ 1 := by
      rw [pieces_append_cons, List.length_append]
      unfold Text.pieces
      omega
    simp [several]
  · rw [pieces_of_not_mem slash]
    simpa using slash

/-! ## Matching -/

/-- Merging neighbouring globstars changes nothing about what a list of segments matches. -/
theorem matchesNames_mergeGlobstars_eq (segments names : List String) :
    matchesNames (mergeGlobstars segments) names = matchesNames segments names := by
  rw [Bool.eq_iff_iff, matchesNames_iff_covers, matchesNames_iff_covers, covers_mergeGlobstars_iff]

theorem excludes_iff_means (ignoresCase matchesBase : Bool) (pattern path : String) :
    (Matcher.ofPatterns ignoresCase matchesBase [pattern]).excludes path = true ↔
      Means ignoresCase matchesBase pattern path := by
  by_cases blank : trim pattern.toList = []
  · simp [Matcher.ofPatterns, Matcher.excludes, Rule.ofPattern?, normalized_of_blank blank, Means,
      blank]
  · obtain ⟨cs, normal, cut⟩ := exists_normalized blank
    have read : (Text.pieces '/' (if ignoresCase then lower cs else cs)).map String.ofList =
        patternSegments ignoresCase pattern := by
      rw [patternSegments, ← cut]
      cases ignoresCase with
      | false => rfl
      | true =>
          rw [if_pos rfl, pieces_lower, List.map_map]
          rfl
    have count : (patternSegments ignoresCase pattern).length = (Text.pieces '/' cs).length := by
      rw [patternSegments, cut, List.length_map]
    have only : (Matcher.ofPatterns ignoresCase matchesBase [pattern]).excludes path =
        Rule.matches ⟨String.ofList cs, mergeGlobstars (patternSegments ignoresCase pattern),
          ignoresCase, matchesBase && !cs.contains '/'⟩ path := by
      simp [Matcher.ofPatterns, Matcher.excludes, Rule.ofPattern?, normal, read]
    rw [only, Means, Rule.matches, contains_slash_eq, ← count, namesOf_eq]
    by_cases single : matchesBase = true ∧ (patternSegments ignoresCase pattern).length = 1
    · obtain ⟨segment, segments⟩ := List.length_eq_one_iff.mp single.2
      simp [single.1, segments, blank, mergeGlobstars]
    · have apart : (matchesBase && !decide ((patternSegments ignoresCase pattern).length ≠ 1)) =
          false := by
        simpa using single
      rw [if_neg single, ← matchesNames_iff_covers, ← matchesNames_mergeGlobstars_eq]
      simp only [apart, ne_eq, blank, not_false_eq_true, true_and]

/-- A pattern excludes exactly the paths that it means, and merging neighbouring globstars changes
nothing about what a list of segments matches. -/
theorem excludes_ofPatterns_iff (ignoresCase matchesBase : Bool) (pattern path : String) :
    ((Matcher.ofPatterns ignoresCase matchesBase [pattern]).excludes path = true ↔
        Means ignoresCase matchesBase pattern path) ∧
      ∀ segments names,
        matchesNames (mergeGlobstars segments) names = matchesNames segments names :=
  ⟨excludes_iff_means ignoresCase matchesBase pattern path, matchesNames_mergeGlobstars_eq⟩

end Baseline.Glob
