import Baseline.Proofs.Glob.Place

/-!
# Names in lower case

A name pattern that matches a name need not do so in lower case. The ends of a range become other
characters, so that what stood between them is lost or the range is empty. The dotted capital I
becomes two characters, of which a question mark or a class takes one. The form of a capital sigma
depends on what stands around it, and that is not the same in the pattern and in the name.
Everything else survives: stars take what they took, and a letter meets its own lower form.
-/

namespace Baseline.Glob

open Text Text.Property

variable {before after : Option Bool} {c : Char} {name rest segment : List Char} {ps : List Place}

/-! ## Places whose lower forms take what they took -/

/-- If the place takes the character, its lower form takes every lower form of the character. -/
def Place.Keeps (c : Char) : Place → Prop
  | literal _ => True
  | run => True
  | one => c ≠ 'İ'
  | among body =>
    (classOf body).accepts c = true →
      c ≠ 'İ' ∧ ∀ form ∈ forms c, (classOf (lower body)).accepts form = true

instance (c : Char) : (place : Place) → Decidable (place.Keeps c)
  | .literal _ => .isTrue trivial
  | .run => .isTrue trivial
  | .one => inferInstanceAs (Decidable (c ≠ 'İ'))
  | .among body =>
    have : Decidable (∀ form ∈ forms c, (classOf (lower body)).accepts form = true) :=
      List.decidableBAll _ _
    inferInstanceAs (Decidable ((classOf body).accepts c = true →
      c ≠ 'İ' ∧ ∀ form ∈ forms c, (classOf (lower body)).accepts form = true))

/-- Whether a cased character was read last, as far as the pattern tells, after one more place. -/
def knownAfter (before : Option Bool) : Place → Option Bool
  | .literal c => if isCaseIgnorable c then before else some (isCased c)
  | _ => none

/-- Whether a cased character follows, as far as the pattern tells. -/
def knownNext : List Place → Option Bool
  | [] => some false
  | .literal c :: rest => if isCaseIgnorable c then knownNext rest else some (isCased c)
  | _ :: _ => none

/-- A pattern and a name are read up to places that what is known is true of. -/
def Agree (before : Option Bool) (inPattern inName : Bool) : Prop :=
  ∀ cased, before = some cased → inPattern = cased ∧ inName = cased

theorem agree_none (inPattern inName : Bool) : Agree none inPattern inName := nofun

theorem agree_some (cased : Bool) : Agree (some cased) cased cased := by
  rintro _ ⟨rfl⟩
  exact ⟨rfl, rfl⟩

theorem Agree.literal {inPattern inName : Bool} (agree : Agree before inPattern inName)
    (c : Char) :
    Agree (knownAfter before (.literal c)) (casedAfter inPattern c) (casedAfter inName c) := by
  rw [knownAfter, casedAfter, casedAfter]
  split
  next => exact agree
  next => exact agree_some (isCased c)

/-- What is known around a capital sigma tells its lower form. -/
def IsSettled (before after : Option Bool) : Prop :=
  before = some false ∨ after = some true ∨ before = some true ∧ after = some false

instance : Decidable (IsSettled before after) :=
  inferInstanceAs (Decidable (_ ∨ _ ∨ _))

/-- The pattern tells the lower form of each capital sigma that stands for itself. -/
def SigmasSettled (before : Option Bool) : List Place → Prop
  | [] => True
  | place :: rest =>
    (place = .literal 'Σ' → IsSettled before (knownNext rest)) ∧
      SigmasSettled (knownAfter before place) rest

instance decidableSigmasSettled :
    (before : Option Bool) → (ps : List Place) → Decidable (SigmasSettled before ps)
  | _, [] => .isTrue trivial
  | before, place :: rest =>
    have := decidableSigmasSettled (knownAfter before place) rest
    inferInstanceAs (Decidable (_ ∧ _))

/-- What a name pattern matches in a name survives in the lower forms. -/
def Survives (segment name : List Char) : Prop :=
  (∀ place ∈ places segment, ∀ c ∈ name, place.Keeps c) ∧
    ('Σ' ∈ name → SigmasSettled (some false) (places segment))

instance (segment name : List Char) : Decidable (Survives segment name) :=
  have (place : Place) : Decidable (∀ c ∈ name, place.Keeps c) := List.decidableBAll _ name
  inferInstanceAs (Decidable (_ ∧ _))

theorem accepts_literal_iff {c d : Char} : (Place.literal d).Accepts c ↔ c = d := by
  simp [Place.Accepts, Place.wildcard, Wildcard.accepts]

/-- What the places tell is true of the pattern and of each name that they take. -/
theorem followedByCased_of_known {known : Bool}
    (taken : Takes Place.isRun Place.Accepts ps name) (next : knownNext ps = some known) :
    followedByCased name = known ∧ followedByCased (ps.flatMap Place.written) = known := by
  induction taken with
  | nil => exact ⟨Option.some.inj next, Option.some.inj next⟩
  | @gap place ps name run kind _ _ =>
    cases place with
    | run => cases next
    | literal | one | among => cases kind
  | @single place ps c name _ accepted _ induction =>
    cases place with
    | literal d =>
      obtain rfl := accepts_literal_iff.mp accepted
      rw [knownNext] at next
      rw [List.flatMap_cons, Place.written, List.singleton_append, followedByCased_cons,
        followedByCased_cons]
      split at next
      next ignorable =>
        rw [if_pos ignorable, if_pos ignorable]
        exact induction next
      next other =>
        rw [if_neg other, if_neg other]
        exact ⟨Option.some.inj next, Option.some.inj next⟩
    | run | one | among => cases next

/-- A settled capital sigma has one form in the pattern and in the name. -/
theorem formAt_sigma_eq {inPattern inName : Bool} {next : List Char}
    (agree : Agree before inPattern inName)
    (follows : ∀ cased, after = some cased →
      followedByCased rest = cased ∧ followedByCased next = cased)
    (settled : IsSettled before after) :
    formAt inPattern 'Σ' next = formAt inName 'Σ' rest := by
  rcases settled with uncased | cased | ⟨cased, uncased⟩
  · obtain ⟨rfl, rfl⟩ := agree _ uncased
    rfl
  · obtain ⟨name, pattern⟩ := follows _ cased
    simp [formAt, name, pattern]
  · obtain ⟨rfl, rfl⟩ := agree _ cased
    obtain ⟨name, pattern⟩ := follows _ uncased
    simp [formAt, name, pattern]

theorem takes_literals (taken : Takes Place.isRun Place.Accepts ps name) (letters : List Char) :
    Takes Place.isRun Place.Accepts (letters.map .literal ++ ps) (letters ++ name) := by
  induction letters with
  | nil => exact taken
  | cons letter letters induction => exact .single rfl (accepts_literal_iff.mpr rfl) induction

/-- A single place that takes every lower form of a character, before places that take the lower
form of the rest. -/
theorem takes_form {place : Place} (single : place.isRun = false) (one : c ≠ 'İ')
    (accepts : ∀ form ∈ forms c, place.Accepts form)
    (taken : ∀ state, Takes Place.isRun Place.Accepts ps (lowerFrom state name))
    (afterCased : Bool) :
    Takes Place.isRun Place.Accepts (place :: ps) (lowerFrom afterCased (c :: name)) := by
  obtain ⟨form, member, only⟩ := exists_formAt one afterCased name
  rw [lowerFrom_cons, only]
  exact .single single (accepts form member) (taken _)

/-- What places take, their lower forms take in lower case, where the pattern and the name are read
up to there in states of their own. -/
theorem takes_lowerPlaces {inPattern inName : Bool}
    (agree : Agree before inPattern inName)
    (taken : Takes Place.isRun Place.Accepts ps name)
    (keeps : ∀ place ∈ ps, ∀ c ∈ name, place.Keeps c)
    (settled : 'Σ' ∈ name → SigmasSettled before ps) :
    Takes Place.isRun Place.Accepts (lowerPlaces inPattern ps) (lowerFrom inName name) := by
  -- By induction on what is taken. After a star, a question mark or a class the two states may
  -- differ, but then the pattern tells nothing until its next letter.
  induction taken generalizing before inPattern inName with
  | nil => exact .nil
  | @gap place ps name run kind taken induction =>
    have others : ∀ place ∈ ps, ∀ c ∈ name, place.Keeps c := fun place there c here =>
      keeps place (List.mem_cons_of_mem _ there) c (List.mem_append_right _ here)
    cases place with
    | run =>
      obtain ⟨lowered, state, parted⟩ := exists_lowerFrom_append inName run name
      rw [parted]
      refine .gap lowered rfl (induction (agree_none false state) others fun sigma => ?_)
      exact (settled (List.mem_append_right _ sigma)).2
    | literal | one | among => cases kind
  | @single place ps c name kind accepted taken induction =>
    have here : place.Keeps c := keeps place List.mem_cons_self c List.mem_cons_self
    have others : ∀ place ∈ ps, ∀ c ∈ name, place.Keeps c := fun place there c here =>
      keeps place (List.mem_cons_of_mem _ there) c (List.mem_cons_of_mem _ here)
    have later : 'Σ' ∈ name → SigmasSettled (knownAfter before place) ps := fun sigma =>
      (settled (List.mem_cons_of_mem _ sigma)).2
    cases place with
    | run => cases kind
    | one =>
      have accepts : ∀ form ∈ forms c, Place.one.Accepts form := fun _ _ => rfl
      exact takes_form rfl here accepts
        (fun state => induction (agree_none false state) others later) inName
    | among body =>
      obtain ⟨one, takes⟩ := here accepted
      have accepts : ∀ form ∈ forms c, (Place.among (lower body)).Accepts form := takes
      exact takes_form rfl one accepts
        (fun state => induction (agree_none false state) others later) inName
    | literal d =>
      obtain rfl := accepts_literal_iff.mp accepted
      have form : formAt inPattern c (ps.flatMap Place.written) = formAt inName c name := by
        by_cases sigma : c = 'Σ'
        · subst sigma
          exact formAt_sigma_eq agree (fun cased next => followedByCased_of_known taken next)
            ((settled List.mem_cons_self).1 rfl)
        · simp [formAt, sigma]
      rw [lowerPlaces, lowerFrom_cons, form]
      exact takes_literals (induction (agree.literal c) others later) _

/-- A name pattern that matches a name still does so in lower case, if what it matches survives. -/
theorem meets_lower (met : Meets segment name) (survives : Survives segment name) :
    Meets (lower segment) (lower name) := by
  rw [Meets, lower, places_lowerFrom]
  exact takes_lowerPlaces (agree_some false) met survives.1 survives.2

theorem survives_nil (segment : List Char) : Survives segment [] :=
  ⟨fun _ _ _ => nofun, nofun⟩

/-! ## Names that do not survive -/

/-- The lower form of a place whose letters have one. -/
def Place.lowered : Place → Place
  | literal c => literal (lowerChar c)
  | one => one
  | run => run
  | among body => among (lower body)

theorem Place.isRun_lowered (place : Place) : place.lowered.isRun = place.isRun := by
  cases place <;> rfl

theorem lowerPlaces_eq_map (single : ∀ c, .literal c ∈ ps → HasOneForm c) (afterCased : Bool) :
    lowerPlaces afterCased ps = ps.map Place.lowered := by
  induction ps generalizing afterCased with
  | nil => rfl
  | cons place ps induction =>
      have later := induction fun c member => single c (List.mem_cons_of_mem _ member)
      cases place with
      | literal c =>
          rw [lowerPlaces, (single c List.mem_cons_self).formAt_eq, later]
          rfl
      | one | run | among =>
          rw [lowerPlaces, later]
          rfl

/-- A character with one lower form is kept if the place does not lose that one. -/
theorem Place.keeps_iff {place : Place} (single : HasOneForm c) :
    place.Keeps c ↔ (place.Accepts c → place.lowered.Accepts (lowerChar c)) := by
  cases place with
  | literal d =>
      simp only [Keeps, lowered, accepts_literal_iff, true_iff]
      exact congrArg lowerChar
  | one => exact ⟨fun _ _ => rfl, fun _ => single.1⟩
  | run => exact ⟨fun _ _ => rfl, fun _ => trivial⟩
  | among body =>
      rw [Keeps, single.forms_eq]
      simp only [List.forall_mem_singleton, ne_eq, single.1, not_false_eq_true, true_and]
      exact Iff.rfl

/-- A letter of a pattern is in each name that the pattern matches. -/
theorem Meets.mem_of_literal (met : Meets segment name) (there : .literal c ∈ places segment) :
    c ∈ name := by
  obtain ⟨d, member, accepted⟩ := met.exists_accepted there rfl
  rwa [← accepts_literal_iff.mp accepted]

/-- Where a place loses a character, it does so in a name that is as short as can be: stars take
nothing there, so the places of the lower form meet the letters one by one. -/
theorem exists_not_meets_lower {place : Place} (met : Meets segment name)
    (plain : ∀ c ∈ name, HasOneForm c) (there : place ∈ places segment) (single : HasOneForm c)
    (lost : ¬place.Keeps c) :
    ∃ other, other ≠ [] ∧ (∀ d ∈ other, d = c ∨ d ∈ name) ∧ Meets segment other ∧
      ¬Meets (lower segment) (lower other) := by
  rw [Place.keeps_iff single, Classical.not_imp] at lost
  obtain ⟨accepted, refused⟩ := lost
  have kind : place.isRun = false := by
    cases place with
    | run => exact (refused rfl).elim
    | literal | one | among => rfl
  have letters : ∀ d, .literal d ∈ places segment → HasOneForm d := fun d member =>
    plain d (met.mem_of_literal member)
  obtain ⟨tight, part, each⟩ := met.exists_forall₂
  obtain ⟨first, second, parted⟩ := exists_singles_eq there kind
  rw [parted] at each
  obtain ⟨before, d, after, rfl, same, -, replaced⟩ := exists_of_forall₂_append_cons each
  have each := replaced c accepted
  have within : ∀ e ∈ before ++ c :: after, e = c ∨ e ∈ name := by
    intro e member
    rcases List.mem_append.mp member with left | right
    · exact .inr (part.subset (List.mem_append_left _ left))
    · rcases List.mem_cons.mp right with here | right
      · exact .inl here
      · exact .inr (part.subset (List.mem_append_right _ (List.mem_cons_of_mem _ right)))
  have forms : ∀ e ∈ before ++ c :: after, HasOneForm e := by
    intro e member
    rcases within e member with rfl | member
    · exact single
    · exact plain e member
  refine ⟨before ++ c :: after, by simp, within, takes_of_forall₂ (parted ▸ each), fun met => ?_⟩
  rw [Meets, lower, lower, places_lowerFrom, lowerPlaces_eq_map letters, lowerFrom_eq_map forms]
    at met
  have count := each.length_eq
  have meets := met.forall₂ (by
    rw [singles_map Place.isRun_lowered, parted, List.length_map, List.length_map, count])
  rw [singles_map Place.isRun_lowered, parted, List.map_append, List.map_cons, List.map_append,
    List.map_cons] at meets
  exact refused (forall₂_append_cons meets (by rw [List.length_map, List.length_map, same]))

/-! ## Classes that list their characters -/

/-- The body of a class that lists its characters: it has no ranges and is not negated. -/
def IsListed (body : List Char) : Prop :=
  '-' ∉ body ∧ body.head? ≠ some '!'

theorem hyphenAfter_of_not_mem {body : List Char} (whole : '-' ∉ body) (least : Nat) :
    hyphenAfter least body = none := by
  induction body generalizing least with
  | nil => rfl
  | cons c body induction =>
      rw [List.mem_cons, not_or] at whole
      cases least with
      | zero => simp [hyphenAfter, Ne.symm whole.1, induction whole.2]
      | succ least => simp [hyphenAfter, induction whole.2]

theorem rangesOf_map_some (body : List Char) :
    rangesOf (body.map some) = body.map fun c => (c, c) := by
  induction body with
  | nil => rfl
  | cons c body induction =>
      cases body with
      | nil => rfl
      | cons d body =>
          rw [List.map_cons, List.map_cons, rangesOf]
          · exact congrArg ((c, c) :: ·) induction
          · exact fun _ _ same => Option.some_ne_none d (List.cons.inj same).1

theorem any_range_iff {body : List Char} :
    (body.map fun d => (d, d)).any (fun (low, high) => low ≤ c && c ≤ high) = true ↔
      c ∈ body := by
  simp only [List.any_map, List.any_eq_true, Function.comp, Bool.and_eq_true, decide_eq_true_iff]
  constructor
  · rintro ⟨d, member, low, high⟩
    rwa [Char.le_antisymm high low]
  · exact fun member => ⟨c, member, Char.le_refl c, Char.le_refl c⟩

/-- A class that lists its characters accepts these. -/
theorem accepts_iff_of_isListed {body : List Char} (listed : IsListed body) :
    (Place.among body).Accepts c ↔ c ∈ body := by
  obtain ⟨whole, start⟩ := listed
  have read (least : Nat) :
      members (withoutEmptyRanges (chunks least (body.length + 1) body)) = body.map some := by
    rw [chunks, hyphenAfter_of_not_mem whole]
    rfl
  have unnegated (rest : List (Option Char)) : body.map some ≠ some '!' :: rest := by
    intro same
    obtain ⟨c, more, rfl, mark, -⟩ := List.map_eq_cons_iff.mp same
    exact start mark
  rw [Place.Accepts, Place.wildcard, classOf, read]
  split
  next none =>
    rw [List.map_eq_nil_iff.mp none]
    simp [Wildcard.accepts]
  next lone => exact (unnegated _ lone).elim
  next negated => exact (unnegated _ negated).elim
  next =>
    rw [rangesOf_map_some, Wildcard.accepts, any_range_iff.symm]
    simp

theorem IsListed.lower {body : List Char} (listed : IsListed body) : IsListed (lower body) := by
  refine ⟨fun hyphen => listed.1 (mem_of_mem_lowerFrom (by decide) hyphen), ?_⟩
  cases body with
  | nil => exact listed.2
  | cons c body =>
      have other : c ≠ '!' := fun same => listed.2 (congrArg some same)
      obtain ⟨form, rest, lowered, differs⟩ := @head_lowerFrom_ne c body false '!' (by decide) other
      rw [Text.lower, lowered]
      exact fun same => differs (Option.some.inj same)

/-- A class that lists its characters loses none but the two capitals with several forms. -/
theorem keeps_of_isListed {body : List Char} (listed : IsListed body) (single : HasOneForm c) :
    (Place.among body).Keeps c := by
  rw [Place.keeps_iff single, accepts_iff_of_isListed listed]
  exact fun member => (accepts_iff_of_isListed listed.lower).mpr (single.mem_lowerFrom member false)

end Baseline.Glob
