import Baseline.Proofs.Glob.Meaning
import Baseline.Proofs.Glob.Place

/-!
# Segments as they are spelled

Whether a glob excludes a path is a matter of its segments and the names of the path, both in the
case that they are compared in. Only the first segment of a glob may be empty, so names that are
not can be written as the names of a path.
-/

namespace Baseline.Glob

open Text Text.Property

variable {c : Char} {name segment : List Char} {spelled names : List (List Char)}

/-! ## Segments and names -/

/-- The segments of a pattern, as they are spelled. -/
def spelledSegments (pattern : String) : List (List Char) :=
  withFinalStars (withoutLeadingDot (segments (trim pattern.toList)))

/-- A segment that stands for any number of names. -/
def isGlobstar (segment : List Char) : Bool :=
  segment == globstar.toList

/-- Segments match names: a single one any name where that is asked for, and else all of them all
names. -/
def Matched (matchesBase : Bool) (spelled names : List (List Char)) : Prop :=
  if matchesBase = true ∧ spelled.length = 1 then
    ∃ segment ∈ spelled, ∃ name ∈ names, name ≠ [] ∧ Meets segment name
  else Takes isGlobstar Meets spelled names

/-- A text as it is compared. -/
def inCase (ignoresCase : Bool) (cs : List Char) : List Char :=
  if ignoresCase then lower cs else cs

theorem ofList_eq_globstar_iff : String.ofList segment = globstar ↔ isGlobstar segment = true := by
  rw [isGlobstar, beq_iff_eq, ← String.toList_inj, String.toList_ofList]

theorem ofList_eq_empty_iff : String.ofList name = "" ↔ name = [] := by
  rw [← String.toList_inj, String.toList_ofList, String.toList_empty]

theorem covers_map_ofList_iff :
    Covers (spelled.map String.ofList) (names.map String.ofList) ↔
      Takes isGlobstar Meets spelled names := by
  induction spelled generalizing names with
  | nil =>
      rw [List.map_nil, covers_nil_iff, List.map_eq_nil_iff]
      constructor
      · rintro rfl
        exact .nil
      · intro taken
        cases taken
        rfl
  | cons segment spelled induction =>
      rw [List.map_cons, covers_cons_iff]
      cases kind : isGlobstar segment with
      | true =>
          rw [takes_gap_iff kind, ofList_eq_globstar_iff.mpr kind]
          simp only [fits_globstar, true_and, List.map_eq_append_iff]
          constructor
          · rintro ⟨_, _, ⟨run, kept, rfl, rfl, rfl⟩, covered⟩
            exact ⟨run, kept, rfl, induction.mp covered⟩
          · rintro ⟨run, kept, rfl, taken⟩
            exact ⟨_, _, ⟨run, kept, rfl, rfl, rfl⟩, induction.mpr taken⟩
      | false =>
          have single : String.ofList segment ≠ globstar := fun same =>
            Bool.false_ne_true (kind.symm.trans (ofList_eq_globstar_iff.mp same))
          rw [takes_single_iff kind]
          simp only [fits_iff_of_ne single]
          constructor
          · rintro ⟨_, others, parted, ⟨_, rfl, matched⟩, covered⟩
            obtain ⟨name, kept, rfl, rfl, rfl⟩ := List.map_eq_cons_iff.mp parted
            exact ⟨name, kept, rfl, matchesName_ofList_iff.mp matched, induction.mp covered⟩
          · rintro ⟨name, kept, rfl, met, taken⟩
            exact ⟨_, _, rfl, ⟨_, rfl, matchesName_ofList_iff.mpr met⟩, induction.mpr taken⟩

/-- A pattern excludes a path exactly if it is not blank and its segments match the names of the
path, both in the case that they are compared in. -/
theorem excludes_iff_matched (ignoresCase matchesBase : Bool) (pattern path : String) :
    (Matcher.ofPatterns ignoresCase matchesBase [pattern]).excludes path = true ↔
      trim pattern.toList ≠ [] ∧
        Matched matchesBase ((spelledSegments pattern).map (inCase ignoresCase))
          ((segments path.toList).map (inCase ignoresCase)) := by
  have pattern_eq : patternSegments ignoresCase pattern =
      ((spelledSegments pattern).map (inCase ignoresCase)).map String.ofList := by
    rw [List.map_map]
    rfl
  have path_eq : pathSegments ignoresCase path =
      ((segments path.toList).map (inCase ignoresCase)).map String.ofList := by
    rw [List.map_map]
    rfl
  rw [excludes_iff_means, Means, Matched, pattern_eq, path_eq, covers_map_ofList_iff,
    List.length_map]
  simp only [List.mem_map, exists_exists_and_eq_and, matchesName_ofList_iff, List.length_map, ne_eq,
    ofList_eq_empty_iff]

theorem excludes_false_iff (matchesBase : Bool) (pattern path : String) :
    (Matcher.ofPatterns false matchesBase [pattern]).excludes path = true ↔
      trim pattern.toList ≠ [] ∧
        Matched matchesBase (spelledSegments pattern) (segments path.toList) := by
  have same : inCase false = id := rfl
  rw [excludes_iff_matched, same, List.map_id, List.map_id]

theorem Matched.exists_meets {matchesBase : Bool} (matched : Matched matchesBase spelled names)
    (here : segment ∈ spelled) (single : isGlobstar segment = false) :
    ∃ name ∈ names, Meets segment name := by
  unfold Matched at matched
  split at matched
  next only =>
    obtain ⟨other, there, name, member, -, met⟩ := matched
    obtain ⟨lone, rfl⟩ := List.length_eq_one_iff.mp only.2
    rw [List.mem_singleton] at here there
    exact ⟨name, member, here.trans there.symm ▸ met⟩
  next => exact matched.exists_accepted here single

/-! ## Paths of given names -/

/-- A character that a name may have: neither of the slashes. -/
def IsNameChar (c : Char) : Prop :=
  c ≠ '/' ∧ c ≠ '\\'

instance (c : Char) : Decidable (IsNameChar c) :=
  inferInstanceAs (Decidable (_ ∧ _))

theorem pieces_joined (some : names ≠ []) (whole : ∀ name ∈ names, '/' ∉ name) :
    Text.pieces '/' (joined ['/'] names) = names := by
  induction names with
  | nil => exact (some rfl).elim
  | cons name names induction =>
      obtain ⟨here, others⟩ := List.forall_mem_cons.mp whole
      cases names with
      | nil => exact pieces_of_not_mem here
      | cons second names =>
          have more : second :: names ≠ [] := List.cons_ne_nil second names
          rw [joined_cons more, pieces_append_cons, pieces_of_not_mem here, induction more others]
          rfl

theorem mem_joined (member : c ∈ joined ['/'] names) : c = '/' ∨ ∃ name ∈ names, c ∈ name := by
  induction names with
  | nil => cases member
  | cons name names induction =>
      cases names with
      | nil => exact .inr ⟨name, List.mem_cons_self, member⟩
      | cons second names =>
          rw [joined_cons (List.cons_ne_nil second names), List.mem_append, List.mem_cons] at member
          rcases member with here | slash | later
          · exact .inr ⟨name, List.mem_cons_self, here⟩
          · exact .inl slash
          · rcases induction later with slash | ⟨other, there, inside⟩
            · exact .inl slash
            · exact .inr ⟨other, List.mem_cons_of_mem _ there, inside⟩

theorem withoutEmpty_of_not_mem (filled : [] ∉ names) : withoutEmpty names = names := by
  induction names with
  | nil => rfl
  | cons name names induction =>
      rw [List.mem_cons, not_or] at filled
      rw [withoutEmpty_cons_of_ne (Ne.symm filled.1), induction filled.2]

/-- Names with slashes between them are the names of this path. -/
theorem segments_joined (some : names ≠ []) (plain : ∀ name ∈ names, ∀ c ∈ name, IsNameChar c)
    (filled : [] ∉ names.tail) : segments (joined ['/'] names) = names := by
  have whole : ∀ name ∈ names, '/' ∉ name := fun name member slash =>
    (plain name member '/' slash).1 rfl
  have forward : '\\' ∉ joined ['/'] names := by
    intro member
    rcases mem_joined member with slash | ⟨name, there, inside⟩
    · exact absurd slash (by decide)
    · exact (plain name there _ inside).2 rfl
  rw [segments, replaceChar_of_not_mem forward, pieces_joined some whole]
  cases names with
  | nil => rfl
  | cons name names => exact congrArg (name :: ·) (withoutEmpty_of_not_mem filled)

/-- Names are those of a path that is made of their characters and slashes. -/
theorem exists_segments_eq (some : names ≠ [])
    (plain : ∀ name ∈ names, ∀ c ∈ name, IsNameChar c) (filled : [] ∉ names.tail) :
    ∃ path : String, segments path.toList = names ∧
      ∀ c ∈ path.toList, c = '/' ∨ ∃ name ∈ names, c ∈ name := by
  refine ⟨String.ofList (joined ['/'] names), ?_, fun c member => ?_⟩
  · rw [String.toList_ofList]
    exact segments_joined some plain filled
  · rw [String.toList_ofList] at member
    exact mem_joined member

theorem mem_of_mem_withoutEmpty (member : name ∈ withoutEmpty names) : name ∈ names := by
  induction names with
  | nil => exact member
  | cons first names induction =>
      by_cases empty : first = []
      · subst empty
        cases names with
        | nil => exact member
        | cons second names =>
            rw [withoutEmpty_nil_cons (List.cons_ne_nil _ _)] at member
            exact List.mem_cons_of_mem _ (induction member)
      · rw [withoutEmpty_cons_of_ne empty] at member
        rcases List.mem_cons.mp member with here | later
        · exact here ▸ List.mem_cons_self
        · exact List.mem_cons_of_mem _ (induction later)

/-- A name of a path has characters of the path, and no slash. -/
theorem of_mem_segments {cs : List Char} (member : name ∈ segments cs) (inside : c ∈ name) :
    c ∈ cs ∧ IsNameChar c := by
  obtain ⟨first, rest, cut⟩ := exists_pieces_eq_cons (replaceChar '\\' '/' cs)
  have piece : name ∈ Text.pieces '/' (replaceChar '\\' '/' cs) := by
    rw [segments, cut] at member
    rw [cut]
    rcases List.mem_cons.mp member with here | later
    · exact here ▸ List.mem_cons_self
    · exact List.mem_cons_of_mem _ (mem_of_mem_withoutEmpty later)
  obtain ⟨whole, within⟩ := of_mem_pieces piece
  have other : c ≠ '/' := fun slash => whole (slash ▸ inside)
  obtain ⟨d, there, replaced⟩ := List.mem_map.mp (within inside)
  split at replaced
  next => exact (other replaced.symm).elim
  next forward =>
    subst replaced
    exact ⟨there, other, by simpa using forward⟩

/-! ## Segments that are not empty -/

theorem nil_not_mem_dropLast_withoutEmpty (names : List (List Char)) :
    [] ∉ (withoutEmpty names).dropLast := by
  induction names with
  | nil => exact List.not_mem_nil
  | cons first names induction =>
      by_cases empty : first = []
      · subst empty
        cases names with
        | nil => exact List.not_mem_nil
        | cons second names =>
            rw [withoutEmpty_nil_cons (List.cons_ne_nil _ _)]
            exact induction
      · rw [withoutEmpty_cons_of_ne empty]
        cases rest : withoutEmpty names with
        | nil => exact List.not_mem_nil
        | cons second more =>
            rw [rest] at induction
            rw [List.dropLast_cons_cons, List.mem_cons, not_or]
            exact ⟨Ne.symm empty, induction⟩

theorem nil_not_mem_withoutLeadingDot (filled : [] ∉ spelled.tail.dropLast) :
    [] ∉ (withoutLeadingDot spelled).tail.dropLast := by
  unfold withoutLeadingDot
  split
  next second rest =>
    cases rest with
    | nil => exact List.not_mem_nil
    | cons third rest =>
        rw [List.tail_cons, List.dropLast_cons_cons, List.mem_cons, not_or] at filled
        exact filled.2
  next => exact filled

theorem nil_not_mem_withFinalStars (filled : [] ∉ spelled.tail.dropLast) :
    [] ∉ (withFinalStars spelled).tail := by
  cases spelled with
  | nil => exact List.not_mem_nil
  | cons first rest =>
      rcases List.eq_nil_or_concat rest with rfl | ⟨middle, last, rfl⟩
      · exact List.not_mem_nil
      · rw [List.tail_cons, List.concat_eq_append, List.dropLast_concat] at filled
        rw [withFinalStars, List.concat_eq_append]
        split
        next =>
          rw [← List.cons_append, List.dropLast_concat, List.cons_append, List.tail_cons,
            List.mem_append, not_or]
          exact ⟨filled, by decide⟩
        next kept =>
          have some : last ≠ [] := by
            rintro rfl
            exact kept ⟨by simp, by rw [← List.cons_append, List.getLast?_concat]⟩
          rw [List.tail_cons, List.mem_append, not_or, List.mem_singleton]
          exact ⟨filled, Ne.symm some⟩

/-- Only the first segment of a pattern may be empty. -/
theorem nil_not_mem_tail_spelledSegments (pattern : String) :
    [] ∉ (spelledSegments pattern).tail := by
  refine nil_not_mem_withFinalStars (nil_not_mem_withoutLeadingDot ?_)
  obtain ⟨first, rest, cut⟩ := exists_pieces_eq_cons (replaceChar '\\' '/' (trim pattern.toList))
  rw [segments, cut]
  exact nil_not_mem_dropLast_withoutEmpty rest

end Baseline.Glob
