import Baseline.Glob.Wildcard
import Baseline.Proofs.Glob.Gap
import Baseline.Proofs.Text.Lowercase

/-!
# Places of a name pattern

A name pattern is a text of places: letters, stars, question marks and classes in brackets. Each
place keeps the text that it is written with, so it has a lower form. Reading the places of a
pattern and taking lower forms can be done in either order, as brackets, stars and question marks
are marks and nothing else becomes one.
-/

namespace Baseline.Glob

open Text Text.Property

variable {c : Char} {cs body after first second : List Char} {afterCased : Bool}

/-- One place of a name pattern, as it is written. -/
inductive Place where
  | literal (c : Char)
  | one
  | run
  | among (body : List Char)
  deriving DecidableEq

namespace Place

/-- What the place stands for. -/
def wildcard : Place → Wildcard
  | literal c => .literal c
  | one => .one
  | run => .run
  | among body => classOf body

/-- A star takes any characters. -/
def isRun : Place → Bool
  | run => true
  | _ => false

/-- A place that is no star takes a character. -/
def Accepts (place : Place) (c : Char) : Prop :=
  place.wildcard.accepts c = true

/-- The text of the place. -/
def written : Place → List Char
  | literal c => [c]
  | one => ['?']
  | run => ['*']
  | among body => '[' :: (body ++ [']'])

end Place

/-- The places of a pattern, where `skip` characters of it belong to a class that has been read. -/
def placesFrom (skip : Nat) : List Char → List Place
  | [] => []
  | c :: rest =>
    match skip with
    | skip + 1 => placesFrom skip rest
    | 0 =>
      match c with
      | '*' => .run :: placesFrom 0 rest
      | '?' => .one :: placesFrom 0 rest
      | '[' =>
        match classBody? rest with
        | none => .literal '[' :: placesFrom 0 rest
        | some (body, _) => .among body :: placesFrom (body.length + 1) rest
      | c => .literal c :: placesFrom 0 rest

/-- The places of a pattern. -/
def places (pattern : List Char) : List Place :=
  placesFrom 0 pattern

/-! ## Classes -/

theorem upToBracket_cons_of_ne (other : c ≠ ']') (cs : List Char) :
    upToBracket (c :: cs) = (upToBracket cs).map fun (body, after) => (c :: body, after) := by
  rw [upToBracket]
  exact other

theorem upToBracket_append (whole : ']' ∉ first) (second : List Char) :
    upToBracket (first ++ second) =
      (upToBracket second).map fun (body, after) => (first ++ body, after) := by
  induction first with
  | nil => simp
  | cons c first induction =>
      rw [List.mem_cons, not_or] at whole
      rw [List.cons_append, upToBracket_cons_of_ne (Ne.symm whole.1), induction whole.2,
        Option.map_map]
      rfl

theorem eq_append_of_upToBracket (closed : upToBracket cs = some (body, after)) :
    cs = body ++ ']' :: after := by
  induction cs generalizing body with
  | nil => cases closed
  | cons c cs induction =>
      by_cases bracket : c = ']'
      · subst bracket
        cases closed
        rfl
      · rw [upToBracket_cons_of_ne bracket, Option.map_eq_some_iff] at closed
        obtain ⟨⟨body, after⟩, closed, same⟩ := closed
        cases same
        rw [induction closed]
        rfl

theorem eq_append_of_upToLaterBracket (closed : upToLaterBracket cs = some (body, after)) :
    cs = body ++ ']' :: after := by
  unfold upToLaterBracket at closed
  split at closed
  next =>
    rw [Option.map_eq_some_iff] at closed
    obtain ⟨⟨body, after⟩, closed, same⟩ := closed
    cases same
    rw [eq_append_of_upToBracket closed]
    rfl
  next => exact eq_append_of_upToBracket closed

theorem eq_append_of_classBody? (closed : classBody? cs = some (body, after)) :
    cs = body ++ ']' :: after := by
  unfold classBody? at closed
  split at closed
  next =>
    rw [Option.map_eq_some_iff] at closed
    obtain ⟨⟨body, after⟩, closed, same⟩ := closed
    cases same
    rw [eq_append_of_upToLaterBracket closed]
    rfl
  next => exact eq_append_of_upToLaterBracket closed

/-- The lower forms of a body and of what follows its class. -/
def lowerParts (afterCased : Bool) (parts : List Char × List Char) : List Char × List Char :=
  (lowerFrom afterCased parts.1, lower parts.2)

theorem isMark_closing : IsMark ']' := by
  constructor <;> decide +kernel

theorem isMark_opening : IsMark '[' := by
  constructor <;> decide +kernel

theorem isMark_star : IsMark '*' := by
  constructor <;> decide +kernel

theorem isMark_question : IsMark '?' := by
  constructor <;> decide +kernel

theorem isMark_exclamation : IsMark '!' := by
  constructor <;> decide +kernel

theorem upToBracket_lowerFrom (afterCased : Bool) (cs : List Char) :
    upToBracket (lowerFrom afterCased cs) = (upToBracket cs).map (lowerParts afterCased) := by
  induction cs generalizing afterCased with
  | nil => rfl
  | cons c cs induction =>
      by_cases bracket : c = ']'
      · subst bracket
        rw [isMark_closing.lowerFrom_cons]
        rfl
      · have whole : ']' ∉ formAt afterCased c cs := fun member =>
          bracket (eq_of_mem_formAt (by decide) member).symm
        rw [lowerFrom_cons, upToBracket_append whole, induction, upToBracket_cons_of_ne bracket]
        cases closed : upToBracket cs with
        | none => rfl
        | some parts =>
            -- What follows the bracket has no part in the forms before it.
            obtain ⟨body, after⟩ := parts
            rw [eq_append_of_upToBracket closed, isMark_closing.formAt_append]
            simp [lowerParts, lowerFrom_cons]

/-- A lower form starts with a mark only where the text does. -/
theorem head_lowerFrom_ne {mark : Char} (low : mark.toNat < 0x61) (other : c ≠ mark) :
    ∃ form rest, lowerFrom afterCased (c :: cs) = form :: rest ∧ form ≠ mark := by
  obtain ⟨form, more, here⟩ := List.exists_cons_of_ne_nil (formAt_ne_nil afterCased c cs)
  refine ⟨form, more ++ lowerFrom (casedAfter afterCased c) cs, ?_, ?_⟩
  · rw [lowerFrom_cons, here, List.cons_append]
  · rintro rfl
    exact other (eq_of_mem_formAt low (here ▸ List.mem_cons_self)).symm

theorem upToLaterBracket_of_ne (other : c ≠ ']') (cs : List Char) :
    upToLaterBracket (c :: cs) = upToBracket (c :: cs) := by
  rw [upToLaterBracket]
  exact fun _ same => other (List.cons.inj same).1

theorem classBody?_of_ne (other : c ≠ '!') (cs : List Char) :
    classBody? (c :: cs) = upToLaterBracket (c :: cs) := by
  rw [classBody?]
  exact fun _ same => other (List.cons.inj same).1

theorem upToLaterBracket_closing (cs : List Char) :
    upToLaterBracket (']' :: cs) =
      (upToBracket cs).map fun (body, after) => (']' :: body, after) := rfl

theorem classBody?_exclamation (cs : List Char) :
    classBody? ('!' :: cs) =
      (upToLaterBracket cs).map fun (body, after) => ('!' :: body, after) := rfl

theorem upToLaterBracket_lowerFrom (afterCased : Bool) (cs : List Char) :
    upToLaterBracket (lowerFrom afterCased cs) =
      (upToLaterBracket cs).map (lowerParts afterCased) := by
  cases cs with
  | nil => rfl
  | cons c cs =>
      by_cases bracket : c = ']'
      · subst bracket
        rw [isMark_closing.lowerFrom_cons, upToLaterBracket_closing, upToLaterBracket_closing,
          lower, upToBracket_lowerFrom, Option.map_map, Option.map_map]
        refine congrArg (Option.map · _) (funext fun parts => ?_)
        simp [lowerParts, isMark_closing.lowerFrom_cons, lower]
      · obtain ⟨form, rest, lowered, differs⟩ := @head_lowerFrom_ne c cs afterCased ']' (by decide)
          bracket
        rw [upToLaterBracket_of_ne bracket, ← upToBracket_lowerFrom, lowered,
          upToLaterBracket_of_ne differs]

/-- The lower form of a class is the class of the lower form. -/
theorem classBody?_lower (cs : List Char) :
    classBody? (lower cs) = (classBody? cs).map (lowerParts false) := by
  cases cs with
  | nil => rfl
  | cons c cs =>
      by_cases negated : c = '!'
      · subst negated
        rw [lower, isMark_exclamation.lowerFrom_cons, classBody?_exclamation,
          classBody?_exclamation, lower, upToLaterBracket_lowerFrom, Option.map_map, Option.map_map]
        refine congrArg (Option.map · _) (funext fun parts => ?_)
        simp [lowerParts, isMark_exclamation.lowerFrom_cons, lower]
      · obtain ⟨form, rest, lowered, differs⟩ := @head_lowerFrom_ne c cs false '!' (by decide)
          negated
        rw [classBody?_of_ne negated, ← upToLaterBracket_lowerFrom, lower, lowered,
          classBody?_of_ne differs]

/-! ## Reading places -/

theorem placesFrom_append (first second : List Char) :
    placesFrom first.length (first ++ second) = places second := by
  induction first with
  | nil => rfl
  | cons c first induction => exact induction

/-- A pattern that is read as places. -/
inductive Reads : List Char → List Place → Prop
  | nil : Reads [] []
  | run {cs : List Char} {ps : List Place} : Reads cs ps → Reads ('*' :: cs) (.run :: ps)
  | one {cs : List Char} {ps : List Place} : Reads cs ps → Reads ('?' :: cs) (.one :: ps)
  | among {cs body after : List Char} {ps : List Place} :
      classBody? cs = some (body, after) → Reads after ps → Reads ('[' :: cs) (.among body :: ps)
  | literal {c : Char} {cs : List Char} {ps : List Place} :
      c ≠ '*' → c ≠ '?' → (c = '[' → classBody? cs = none) → Reads cs ps →
        Reads (c :: cs) (.literal c :: ps)

variable {ps : List Place}

theorem places_among (closed : classBody? cs = some (body, after)) :
    places ('[' :: cs) = .among body :: places after := by
  have skipped : placesFrom (body.length + 1) cs = places after := by
    rw [eq_append_of_classBody? closed, ← List.singleton_append, ← List.append_assoc,
      ← placesFrom_append (body ++ [']']), List.length_append]
    rfl
  rw [← skipped, places, placesFrom, closed]

theorem places_literal (star : c ≠ '*') (question : c ≠ '?')
    (opens : c = '[' → classBody? cs = none) :
    places (c :: cs) = .literal c :: places cs := by
  by_cases bracket : c = '['
  · subst bracket
    rw [places, placesFrom, opens rfl]
    rfl
  · rw [places, placesFrom]
    · rfl
    · exact star
    · exact question
    · exact bracket

theorem reads_places (cs : List Char) : Reads cs (places cs) := by
  match cs with
  | [] => exact .nil
  | c :: cs =>
    by_cases star : c = '*'
    · subst star
      exact .run (reads_places cs)
    by_cases question : c = '?'
    · subst question
      exact .one (reads_places cs)
    cases closed : classBody? cs with
    | none =>
      rw [places_literal star question fun _ => closed]
      exact .literal star question (fun _ => closed) (reads_places cs)
    | some parts =>
      obtain ⟨body, after⟩ := parts
      by_cases bracket : c = '['
      · have shorter : after.length ≤ cs.length := by
          rw [eq_append_of_classBody? closed, List.length_append, List.length_cons]
          omega
        rw [bracket, places_among closed]
        exact .among closed (reads_places after)
      · have opens : c = '[' → classBody? cs = none := fun same => (bracket same).elim
        rw [places_literal star question opens]
        exact .literal star question opens (reads_places cs)
termination_by cs.length

theorem Reads.places_eq (reads : Reads cs ps) : places cs = ps := by
  induction reads with
  | nil => rfl
  | run _ induction => exact congrArg (.run :: ·) induction
  | one _ induction => exact congrArg (.one :: ·) induction
  | among closed _ induction => rw [places_among closed, induction]
  | literal star question opens _ induction => rw [places_literal star question opens, induction]

/-- The places of a pattern are written as the pattern. -/
theorem flatMap_written_places (cs : List Char) : (places cs).flatMap Place.written = cs := by
  have reads := reads_places cs
  generalize places cs = ps at reads
  induction reads with
  | nil => rfl
  | run _ induction => exact congrArg ('*' :: ·) induction
  | one _ induction => exact congrArg ('?' :: ·) induction
  | among closed _ induction =>
      rw [List.flatMap_cons, induction, eq_append_of_classBody? closed, Place.written,
        List.cons_append, List.append_assoc]
      rfl
  | literal _ _ _ _ induction => exact congrArg (_ :: ·) induction

/-! ## Names -/

theorem anySuffix_anySuffix {α : Type} (accepts : List α → Bool) (l : List α) :
    anySuffix (anySuffix accepts) l = anySuffix accepts l := by
  rw [Bool.eq_iff_iff, anySuffix_iff, anySuffix_iff]
  constructor
  · rintro ⟨first, rest, rfl, accepted⟩
    obtain ⟨second, kept, rfl, inside⟩ := anySuffix_iff.mp accepted
    exact ⟨first ++ second, kept, (List.append_assoc _ _ _).symm, inside⟩
  · rintro ⟨first, kept, rfl, accepted⟩
    exact ⟨first, kept, rfl, anySuffix_iff.mpr ⟨[], kept, rfl, accepted⟩⟩

theorem classOf_ne_run (body : List Char) : classOf body ≠ .run := by
  unfold classOf
  dsimp only
  split <;> exact Wildcard.noConfusion

theorem covers_cons_iff_of_ne {wildcard : Wildcard} (single : wildcard ≠ .run)
    (wildcards : List Wildcard) (name : List Char) :
    covers (wildcard :: wildcards) name = true ↔
      ∃ c kept, name = c :: kept ∧ wildcard.accepts c = true ∧ covers wildcards kept = true := by
  cases name with
  | nil => cases wildcard <;> simp_all [covers]
  | cons c name => cases wildcard <;> simp_all [covers]

/-- A star before a star takes no more than one. -/
theorem covers_run_cons (wildcards : List Wildcard) (name : List Char) :
    covers (.run :: .run :: wildcards) name = covers (.run :: wildcards) name :=
  anySuffix_anySuffix (covers wildcards) name

/-- A place before places that are read as wildcards. -/
theorem covers_wildcard_cons_iff (place : Place) {wildcards : List Wildcard}
    (rest : ∀ name, covers wildcards name = true ↔ Takes Place.isRun Place.Accepts ps name)
    (name : List Char) :
    covers (place.wildcard :: wildcards) name = true ↔
      Takes Place.isRun Place.Accepts (place :: ps) name := by
  have single (place : Place) (kind : place.isRun = false) (one : place.wildcard ≠ .run) :
      covers (place.wildcard :: wildcards) name = true ↔
        Takes Place.isRun Place.Accepts (place :: ps) name := by
    rw [takes_single_iff kind, covers_cons_iff_of_ne one]
    simp only [rest, Place.Accepts]
  cases place with
  | run =>
      rw [takes_gap_iff rfl, Place.wildcard, covers, anySuffix_iff]
      simp only [rest]
  | literal c => exact single _ rfl Wildcard.noConfusion
  | one => exact single _ rfl Wildcard.noConfusion
  | among body => exact single _ rfl (classOf_ne_run body)

/-- Places say the same as the wildcards that a pattern is read as. -/
theorem covers_wildcardsFrom_iff (skip : Nat) (cs name : List Char) :
    covers (wildcardsFrom skip cs) name = true ↔
      Takes Place.isRun Place.Accepts (placesFrom skip cs) name := by
  induction cs generalizing skip name with
  | nil =>
      cases name with
      | nil => exact ⟨fun _ => .nil, fun _ => rfl⟩
      | cons c name => exact ⟨fun covered => Bool.noConfusion covered, fun taken => by cases taken⟩
  | cons c cs induction =>
      cases skip with
      | succ skip => exact induction skip name
      | zero =>
          rw [wildcardsFrom.eq_def]
          dsimp only
          split
          next =>
            refine Iff.trans ?_ (covers_wildcard_cons_iff .run (induction 0) name)
            split
            next more merged => rw [merged, ← covers_run_cons, Place.wildcard]
            next => rfl
          next => exact covers_wildcard_cons_iff .one (induction 0) name
          next =>
            rw [placesFrom]
            cases classBody? cs with
            | none => exact covers_wildcard_cons_iff (.literal '[') (induction 0) name
            | some parts =>
                exact covers_wildcard_cons_iff (.among parts.1)
                  (induction (parts.1.length + 1)) name
          next star question bracket =>
            rw [placesFrom]
            · exact covers_wildcard_cons_iff (.literal c) (induction 0) name
            · exact star
            · exact question
            · exact bracket

/-- A name pattern matches a name. -/
def Meets (segment name : List Char) : Prop :=
  Takes Place.isRun Place.Accepts (places segment) name

theorem matchesName_ofList_iff {segment name : List Char} :
    matchesName (String.ofList segment) (String.ofList name) = true ↔ Meets segment name := by
  rw [matchesName_eq_covers, String.toList_ofList, String.toList_ofList]
  exact covers_wildcardsFrom_iff 0 segment name

instance (segment name : List Char) : Decidable (Meets segment name) :=
  decidable_of_iff (covers (wildcards segment) name = true)
    (covers_wildcardsFrom_iff 0 segment name)

/-- A name pattern that matches the empty name is made of stars, and matches every name if there is
one. -/
theorem meets_of_meets_nil {segment : List Char} (met : Meets segment []) (some : segment ≠ [])
    (name : List Char) : Meets segment name := by
  unfold Meets at met ⊢
  have written := flatMap_written_places segment
  generalize places segment = ps at met written
  cases ps with
  | nil => exact (some written.symm).elim
  | cons place ps =>
      cases kind : place.isRun with
      | true =>
          obtain ⟨run, kept, parted, taken⟩ := (takes_gap_iff kind).mp met
          obtain ⟨-, rfl⟩ := List.append_eq_nil_iff.mp parted.symm
          exact (takes_gap_iff kind).mpr ⟨name, [], (List.append_nil name).symm, taken⟩
      | false =>
          obtain ⟨c, kept, parted, -⟩ := (takes_single_iff kind).mp met
          cases parted

/-! ## Lower forms of places -/

/-- The places of the lower form of a pattern that stands after a cased character or not. A letter
may have several ones, and its form may depend on what is written around it. -/
def lowerPlaces (afterCased : Bool) : List Place → List Place
  | [] => []
  | .literal c :: rest =>
    (formAt afterCased c (rest.flatMap Place.written)).map .literal ++
      lowerPlaces (casedAfter afterCased c) rest
  | .among body :: rest => .among (lower body) :: lowerPlaces false rest
  | .one :: rest => .one :: lowerPlaces false rest
  | .run :: rest => .run :: lowerPlaces false rest

/-- Letters that are no marks are read as they are. -/
theorem reads_append (reads : Reads cs ps)
    (letters : ∀ letter ∈ first, letter ≠ '*' ∧ letter ≠ '?' ∧ letter ≠ '[') :
    Reads (first ++ cs) (first.map .literal ++ ps) := by
  induction first with
  | nil => exact reads
  | cons c first induction =>
      obtain ⟨⟨star, question, bracket⟩, others⟩ := List.forall_mem_cons.mp letters
      exact .literal star question (fun same => (bracket same).elim) (induction others)

/-- The lower form of a pattern is read as the lower forms of its places. -/
theorem places_lowerFrom (afterCased : Bool) (cs : List Char) :
    places (lowerFrom afterCased cs) = lowerPlaces afterCased (places cs) := by
  refine Reads.places_eq ?_
  have reads := reads_places cs
  generalize places cs = ps at reads
  -- Marks are read the same in the lower form. A letter, which may become several, is read as
  -- letters there, as its forms are no marks.
  induction reads generalizing afterCased with
  | nil => exact .nil
  | run _ induction =>
      rw [isMark_star.lowerFrom_cons]
      exact .run (induction false)
  | one _ induction =>
      rw [isMark_question.lowerFrom_cons]
      exact .one (induction false)
  | among closed _ induction =>
      rw [isMark_opening.lowerFrom_cons]
      refine .among ?_ (induction false)
      rw [classBody?_lower, closed]
      rfl
  | @literal c cs ps star question opens reads induction =>
      rw [lowerFrom_cons, lowerPlaces, ← reads.places_eq, flatMap_written_places, reads.places_eq]
      by_cases bracket : c = '['
      · subst bracket
        rw [isMark_opening.formAt_eq, isMark_opening.casedAfter_eq]
        refine .literal star question (fun _ => ?_) (induction false)
        change classBody? (lower cs) = none
        rw [classBody?_lower, opens rfl]
        rfl
      · refine reads_append (induction _) fun letter member => ⟨?_, ?_, ?_⟩
        all_goals
          rintro rfl
          have same := eq_of_mem_formAt (by decide) member
        · exact star same.symm
        · exact question same.symm
        · exact bracket same.symm

end Baseline.Glob
