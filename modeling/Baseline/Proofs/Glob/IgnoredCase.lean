import Baseline.Proofs.Glob.Segment
import Baseline.Proofs.Glob.Survival

/-!
# Ignored case

Where case is ignored, the lower form of a glob is compared with that of a path. A glob that
excludes a path need not do so there. It does for every path exactly if this is so for each of its
segments and each name, as the names of a path can be chosen one by one. On paths in which every
character has one lower form, the classes of the glob decide it.
-/

namespace Baseline.Glob

open Text Text.Property

variable {name segment : List Char} {spelled names : List (List Char)}

/-! ## Segments in lower case -/

theorem isGlobstar_lower (segment : List Char) :
    isGlobstar (lower segment) = isGlobstar segment := by
  rw [isGlobstar, isGlobstar, Bool.eq_iff_iff, beq_iff_eq, beq_iff_eq]
  constructor
  · intro stars
    have low : ∀ mark ∈ lower segment, mark.toNat < 0x61 := by
      rw [stars]
      exact List.forall_mem_cons.mpr ⟨by decide, List.forall_mem_singleton.mpr (by decide)⟩
    rw [← stars]
    exact (lowerFrom_eq_self low).symm
  · rintro rfl
    decide +kernel

/-- Names that match still do so in lower case, if what each segment matches survives. -/
theorem Matched.lower {matchesBase : Bool} (matched : Matched matchesBase spelled names)
    (kept : ∀ segment ∈ spelled, ∀ name ∈ names, Meets segment name →
      Meets (lower segment) (lower name)) :
    Matched matchesBase (spelled.map lower) (names.map lower) := by
  unfold Matched at matched ⊢
  rw [List.length_map]
  split at matched
  next single =>
    obtain ⟨segment, there, name, here, some, met⟩ := matched
    rw [if_pos single]
    exact ⟨_, List.mem_map_of_mem there, _, List.mem_map_of_mem here, lower_ne_nil some,
      kept segment there name here met⟩
  next several =>
    rw [if_neg several]
    exact matched.map isGlobstar_lower fun segment there name here _ =>
      kept segment there name here

/-! ## Patterns that match less in lower case -/

theorem survives_of_isGlobstar (stars : isGlobstar segment = true) (name : List Char) :
    Survives segment name := by
  obtain rfl : segment = globstar.toList := beq_iff_eq.mp stars
  have runs : places globstar.toList = [.run, .run] := rfl
  rw [Survives, runs]
  simp [Place.Keeps, SigmasSettled]

/-- What a pattern excludes, it excludes too where case is ignored. -/
def StaysExcluded (matchesBase : Bool) (pattern path : String) : Prop :=
  (Matcher.ofPatterns false matchesBase [pattern]).excludes path = true →
    (Matcher.ofPatterns true matchesBase [pattern]).excludes path = true

section Alphabet

/-! Paths are made of the characters of an alphabet, in which there are the slash and a letter. -/

variable {alphabet : Char → Prop}

theorem mem_segments_plain {cs : List Char} (plain : ∀ c ∈ cs, alphabet c) :
    ∀ name ∈ segments cs, ∀ c ∈ name, alphabet c ∧ IsNameChar c := by
  intro name member c inside
  obtain ⟨inPath, nameChar⟩ := of_mem_segments member inside
  exact ⟨plain c inPath, nameChar⟩

/-- A name for a segment, where another one is not to be matched in lower case. Only the empty
segment has an empty name. -/
structure IsChosen (alphabet : Char → Prop) (losing segment name : List Char) : Prop where
  meets : Meets segment name
  plain : ∀ c ∈ name, alphabet c ∧ IsNameChar c
  filled : segment ≠ [] → name ≠ []
  lost : segment = losing → ¬Meets (lower segment) (lower name)

theorem exists_isChosen {losing lost : List Char} (letter : alphabet 'a')
    (chosen : IsChosen alphabet losing losing lost) (met : Meets segment name)
    (plain : ∀ c ∈ name, alphabet c ∧ IsNameChar c) :
    ∃ other, IsChosen alphabet losing segment other := by
  by_cases same : segment = losing
  · subst same
    exact ⟨lost, chosen⟩
  · by_cases empty : name = [] ∧ segment ≠ []
    · -- An empty name would be lost between slashes, but stars match a letter as well.
      obtain ⟨rfl, some⟩ := empty
      refine ⟨['a'], meets_of_meets_nil met some ['a'], ?_, fun _ => List.cons_ne_nil _ _,
        fun also => (same also).elim⟩
      intro d member
      rw [List.mem_singleton.mp member]
      exact ⟨letter, by decide⟩
    · exact ⟨name, met, plain, fun some none => empty ⟨none, some⟩, fun also => (same also).elim⟩

/-- Names that are chosen for all segments but the globstars match. -/
theorem matched_of_forall₂ {matchesBase : Bool}
    (each : List.Forall₂ (IsChosen alphabet segment) (singles isGlobstar spelled) names)
    (here : segment ∈ spelled) (single : isGlobstar segment = false) (some : segment ≠ []) :
    Matched matchesBase spelled names := by
  unfold Matched
  split
  next =>
    obtain ⟨name, inside, chosen⟩ :=
      exists_of_mem_forall₂ each.flip (mem_singles_iff.mpr ⟨here, single⟩)
    exact ⟨segment, here, name, inside, chosen.filled some, chosen.meets⟩
  next => exact takes_of_forall₂ (each.imp fun _ _ chosen => chosen.meets)

/-- They leave nothing to the globstars, so in lower case each of them stands for its segment. -/
theorem not_matched_lower_of_forall₂ {matchesBase : Bool}
    (each : List.Forall₂ (IsChosen alphabet segment) (singles isGlobstar spelled) names)
    (here : segment ∈ spelled) (single : isGlobstar segment = false) :
    ¬Matched matchesBase (spelled.map lower) (names.map lower) := by
  intro lowered
  unfold Matched at lowered
  split at lowered
  next only =>
    rw [List.length_map] at only
    obtain ⟨lone, rfl⟩ := List.length_eq_one_iff.mp only.2
    obtain rfl := List.mem_singleton.mp here
    obtain ⟨_, source, _, target, -, met⟩ := lowered
    obtain ⟨name, member, rfl⟩ := List.mem_map.mp target
    obtain ⟨also, listed, chosen⟩ := exists_of_mem_forall₂ each member
    obtain rfl := List.mem_singleton.mp (mem_singles_iff.mp listed).1
    exact chosen.lost rfl (List.mem_singleton.mp source ▸ met)
  next =>
    have pairs := lowered.forall₂ (by
      rw [singles_map isGlobstar_lower, List.length_map, List.length_map, each.length_eq])
    obtain ⟨first, second, parted⟩ := exists_singles_eq here single
    rw [parted] at each
    obtain ⟨before, name, after, rfl, same, chosen, -⟩ := exists_of_forall₂_append_cons each
    rw [singles_map isGlobstar_lower, parted, List.map_append, List.map_cons, List.map_append,
      List.map_cons] at pairs
    exact chosen.lost rfl
      (forall₂_append_cons pairs (by rw [List.length_map, List.length_map, same]))

theorem nil_not_mem_tail_singles (filled : [] ∉ spelled.tail) :
    [] ∉ (singles isGlobstar spelled).tail := by
  cases spelled with
  | nil => exact List.not_mem_nil
  | cons first rest =>
      have later : [] ∉ singles isGlobstar rest := fun member =>
        filled (mem_singles_iff.mp member).1
      cases kind : isGlobstar first with
      | true =>
          rw [singles_gap kind]
          exact fun member => later (List.mem_of_mem_tail member)
      | false =>
          rw [singles_single kind]
          exact later

theorem nil_not_mem_tail_of_forall₂
    (each : List.Forall₂ (IsChosen alphabet segment) (singles isGlobstar spelled) names)
    (filled : [] ∉ spelled.tail) : [] ∉ names.tail := by
  have others := nil_not_mem_tail_singles filled
  generalize singles isGlobstar spelled = chosen at each others
  cases each with
  | nil => exact List.not_mem_nil
  | cons _ each =>
      intro member
      obtain ⟨other, there, chosen⟩ := exists_of_mem_forall₂ each member
      refine chosen.filled ?_ rfl
      rintro rfl
      exact others there

/-- Such names can be chosen from those that the segments match in some path. -/
theorem exists_forall₂_isChosen {matchesBase : Bool} (letter : alphabet 'a')
    (chosen : IsChosen alphabet segment segment name) (matched : Matched matchesBase spelled names)
    (plain : ∀ name ∈ names, ∀ c ∈ name, alphabet c ∧ IsNameChar c) :
    ∃ others, List.Forall₂ (IsChosen alphabet segment) (singles isGlobstar spelled) others := by
  refine exists_forall₂ fun other member => ?_
  obtain ⟨here, single⟩ := mem_singles_iff.mp member
  obtain ⟨name, inside, met⟩ := matched.exists_meets here single
  exact exists_isChosen letter chosen met (plain name inside)

/-- Where one segment of a pattern does not match a name in lower case that it matched, the pattern
does not exclude a path that it excluded: the other names of this path are chosen around the one. -/
theorem exists_not_staysExcluded {matchesBase : Bool} {pattern path : String}
    (letter : alphabet 'a') (slash : alphabet '/') (plain : ∀ c ∈ path.toList, alphabet c)
    (excluded : (Matcher.ofPatterns false matchesBase [pattern]).excludes path = true)
    (here : segment ∈ spelledSegments pattern) (met : Meets segment name)
    (letters : ∀ c ∈ name, alphabet c ∧ IsNameChar c)
    (lost : ¬Meets (lower segment) (lower name)) :
    ∃ path : String, (∀ c ∈ path.toList, alphabet c) ∧
      ¬StaysExcluded matchesBase pattern path := by
  obtain ⟨some, matched⟩ := (excludes_false_iff matchesBase pattern path).mp excluded
  have single : isGlobstar segment = false := by
    rw [← Bool.not_eq_true]
    exact fun stars => lost (meets_lower met (survives_of_isGlobstar stars name))
  have name_ne : name ≠ [] := by
    rintro rfl
    exact lost (meets_lower met (survives_nil segment))
  have segment_ne : segment ≠ [] := by
    rintro rfl
    cases met
    exact name_ne rfl
  obtain ⟨names, each⟩ := exists_forall₂_isChosen letter
    ⟨met, letters, fun _ => name_ne, fun _ => lost⟩ matched (mem_segments_plain plain)
  have chosen : ∀ name ∈ names, ∀ c ∈ name, alphabet c ∧ IsNameChar c := by
    intro name member
    obtain ⟨_, -, chosen⟩ := exists_of_mem_forall₂ each member
    exact chosen.plain
  have names_ne : names ≠ [] := by
    rintro rfl
    obtain ⟨_, member, -⟩ := exists_of_mem_forall₂ each.flip (mem_singles_iff.mpr ⟨here, single⟩)
    cases member
  obtain ⟨other, cut, within⟩ := exists_segments_eq names_ne
    (fun name member c inside => (chosen name member c inside).2)
    (nil_not_mem_tail_of_forall₂ each (nil_not_mem_tail_spelledSegments pattern))
  refine ⟨other, fun c member => ?_, fun stays => ?_⟩
  · rcases within c member with rfl | ⟨name, there, inside⟩
    · exact slash
    · exact (chosen name there c inside).1
  · have matched : Matched matchesBase (spelledSegments pattern) names :=
      matched_of_forall₂ each here single segment_ne
    have lowered := stays ((excludes_false_iff _ _ _).mpr ⟨some, cut.symm ▸ matched⟩)
    obtain ⟨-, lowered⟩ := (excludes_iff_matched true _ _ _).mp lowered
    rw [cut] at lowered
    exact not_matched_lower_of_forall₂ each here single lowered

/-- What a pattern excludes over an alphabet stays excluded exactly if each of its segments matches
in lower case every name that it matched, or nothing is excluded. -/
theorem forall_staysExcluded_iff (matchesBase : Bool) (pattern : String) (letter : alphabet 'a')
    (slash : alphabet '/') :
    (∀ path : String, (∀ c ∈ path.toList, alphabet c) → StaysExcluded matchesBase pattern path) ↔
      ((∃ path : String, (∀ c ∈ path.toList, alphabet c) ∧
          (Matcher.ofPatterns false matchesBase [pattern]).excludes path = true) →
        ∀ segment ∈ spelledSegments pattern, ∀ name, (∀ c ∈ name, alphabet c ∧ IsNameChar c) →
          Meets segment name → Meets (lower segment) (lower name)) := by
  constructor
  · rintro stays ⟨path, plain, excluded⟩ segment here name letters met
    refine Classical.byContradiction fun lost => ?_
    obtain ⟨other, plain, unmet⟩ :=
      exists_not_staysExcluded letter slash plain excluded here met letters lost
    exact unmet (stays other plain)
  · intro meets path plain excluded
    obtain ⟨some, matched⟩ := (excludes_false_iff matchesBase pattern path).mp excluded
    refine (excludes_iff_matched true matchesBase pattern path).mpr ⟨some, matched.lower ?_⟩
    exact fun segment there name here => meets ⟨path, plain, excluded⟩ segment there name
      (mem_segments_plain plain name here)

end Alphabet

/-! ## What stays excluded -/

/-- Every character of the path has one lower form. -/
def LowersByLetter (path : String) : Prop :=
  ∀ c ∈ path.toList, HasOneForm c

/-- What the segments of the pattern match among the names of the path survives. -/
def SurvivesIn (pattern path : String) : Prop :=
  ∀ segment ∈ spelledSegments pattern, ∀ name ∈ segments path.toList,
    Meets segment name → Survives segment name

instance (pattern path : String) : Decidable (SurvivesIn pattern path) :=
  inferInstanceAs (Decidable (∀ segment ∈ spelledSegments pattern,
    ∀ name ∈ segments path.toList, Meets segment name → Survives segment name))

/-- No place of the pattern loses a character that has one lower form. -/
def KeepsLetters (pattern : String) : Prop :=
  ∀ segment ∈ spelledSegments pattern, ∀ place ∈ places segment, ∀ c,
    IsNameChar c → HasOneForm c → place.Keeps c

/-- The classes of the pattern list their characters. -/
def ListsClasses (pattern : String) : Prop :=
  ∀ segment ∈ spelledSegments pattern, ∀ body, .among body ∈ places segment → IsListed body

theorem ListsClasses.keepsLetters {pattern : String} (lists : ListsClasses pattern) :
    KeepsLetters pattern := by
  intro segment here place there c _ single
  cases place with
  | literal | run => trivial
  | one => exact single.1
  | among body => exact keeps_of_isListed (lists segment here body there) single

theorem survivesIn_of_keepsLetters {pattern path : String} (keeps : KeepsLetters pattern)
    (plain : LowersByLetter path) : SurvivesIn pattern path := by
  intro segment here name there _
  refine ⟨fun place inside c member => ?_, fun sigma => ?_⟩
  · obtain ⟨inPath, nameChar⟩ := of_mem_segments there member
    exact keeps segment here place inside c nameChar (plain c inPath)
  · obtain ⟨inPath, -⟩ := of_mem_segments there sigma
    exact ((plain _ inPath).2 rfl).elim

theorem staysExcluded_of_survivesIn {matchesBase : Bool} {pattern path : String}
    (survives : SurvivesIn pattern path) : StaysExcluded matchesBase pattern path := by
  intro excluded
  obtain ⟨some, matched⟩ := (excludes_false_iff matchesBase pattern path).mp excluded
  refine (excludes_iff_matched true matchesBase pattern path).mpr ⟨some, matched.lower ?_⟩
  exact fun segment here name there met => meets_lower met (survives segment here name there met)

theorem keepsLetters_of_staysExcluded {matchesBase : Bool} {pattern path : String}
    (stays : ∀ path, LowersByLetter path → StaysExcluded matchesBase pattern path)
    (plain : LowersByLetter path)
    (excluded : (Matcher.ofPatterns false matchesBase [pattern]).excludes path = true) :
    KeepsLetters pattern := by
  intro segment here place there c nameChar single
  refine Decidable.byContradiction fun lost => ?_
  have kind : isGlobstar segment = false := by
    rw [← Bool.not_eq_true]
    intro stars
    exact lost ((survives_of_isGlobstar stars [c]).1 place there c List.mem_cons_self)
  obtain ⟨-, matched⟩ := (excludes_false_iff matchesBase pattern path).mp excluded
  obtain ⟨name, inside, met⟩ := matched.exists_meets here kind
  have letters := mem_segments_plain plain name inside
  obtain ⟨other, -, within, meets, unmet⟩ :=
    exists_not_meets_lower met (fun d member => (letters d member).1) there single lost
  refine unmet ((forall_staysExcluded_iff matchesBase pattern (by decide) (by decide)).mp stays
    ⟨path, plain, excluded⟩ segment here other (fun d member => ?_) meets)
  rcases within d member with rfl | member
  · exact ⟨single, nameChar⟩
  · exact letters d member

/-- A pattern excludes what it excluded on every path exactly if each of its segments matches every
name that it matched, unless there is no such path. For one path it suffices that what is matched
survives. Among the paths without the two capitals that have several lower forms, it is exactly the
classes that decide, and those that list their characters lose nothing. -/
theorem staysExcluded_iff (matchesBase : Bool) (pattern : String) :
    ((∀ path, StaysExcluded matchesBase pattern path) ↔
        ((∃ path, (Matcher.ofPatterns false matchesBase [pattern]).excludes path = true) →
          ∀ segment ∈ spelledSegments pattern, ∀ name, (∀ c ∈ name, IsNameChar c) →
            Meets segment name → Meets (lower segment) (lower name))) ∧
      (∀ path, SurvivesIn pattern path → StaysExcluded matchesBase pattern path) ∧
      ((∀ path, LowersByLetter path → StaysExcluded matchesBase pattern path) ↔
        ((∃ path, LowersByLetter path ∧
            (Matcher.ofPatterns false matchesBase [pattern]).excludes path = true) →
          KeepsLetters pattern)) ∧
      (ListsClasses pattern → KeepsLetters pattern) := by
  have all := @forall_staysExcluded_iff (fun _ => True) matchesBase pattern trivial trivial
  simp only [implies_true, forall_const, true_and] at all
  refine ⟨all, fun _ => staysExcluded_of_survivesIn, ⟨?_, ?_⟩, ListsClasses.keepsLetters⟩
  · rintro stays ⟨path, plain, excluded⟩
    exact keepsLetters_of_staysExcluded stays plain excluded
  · intro keeps path plain excluded
    exact staysExcluded_of_survivesIn
      (survivesIn_of_keepsLetters (keeps ⟨path, plain, excluded⟩) plain) excluded

/-- The path has both capitals. A star takes the dotted I, and the last sigma of the folder, which
stands for itself, is final in the pattern and in the path. -/
theorem staysExcluded_iff_greekFolder :
    SurvivesIn "**/ΟΔΟΣ/[A-F]*.js" "w/ΟΔΟΣ/AİΣ.js" ∧
      (Matcher.ofPatterns true false ["**/ΟΔΟΣ/[A-F]*.js"]).excludes "w/ΟΔΟΣ/AİΣ.js" = true := by
  have survives : SurvivesIn "**/ΟΔΟΣ/[A-F]*.js" "w/ΟΔΟΣ/AİΣ.js" := by decide +kernel
  exact ⟨survives, (staysExcluded_iff false "**/ΟΔΟΣ/[A-F]*.js").2.1 "w/ΟΔΟΣ/AİΣ.js" survives
    (by decide +kernel)⟩

/-- Patterns without a negated class, one for each way to lose a path. The range becomes `[a-z]`, the
dotted I two characters, and the sigma is final in the pattern but not in the path. -/
theorem letterRange_not_staysExcluded :
    (¬['[', '!'] <:+: "[A-z]".toList ∧ ¬['[', '!'] <:+: "?".toList ∧
        ¬['[', '!'] <:+: "ΑΣ*".toList) ∧
      ¬StaysExcluded false "[A-z]" "_" ∧ ¬StaysExcluded false "?" "İ" ∧
      ¬StaysExcluded false "ΑΣ*" "ΑΣΑ" := by
  unfold StaysExcluded
  decide +kernel

end Baseline.Glob
