import Mathlib.Data.List.Forall2

/-!
# Results and errors

What is known of the parts of a result that is there, and of the first error where several things are
tried one after the other.
-/

namespace Baseline.Except

variable {ε α β : Type} {first : Except ε α} {next : α → Except ε β} {error : ε}

@[simp] theorem ok_bind (a : α) : .ok a >>= next = next a := rfl

@[simp] theorem error_bind : .error error >>= next = .error error := rfl

theorem exists_of_bind_eq_ok {ε α β : Type} {first : Except ε α} {next : α → Except ε β} {b : β}
    (both : first >>= next = .ok b) : ∃ a, first = .ok a ∧ next a = .ok b := by
  cases first with
  | error e => contradiction
  | ok a => exact ⟨a, rfl, both⟩

theorem exists_of_map_eq_ok {ε α β : Type} {result : Except ε α} {f : α → β} {b : β}
    (mapped : result.map f = .ok b) : ∃ a, result = .ok a ∧ f a = b := by
  cases result with
  | error e => contradiction
  | ok a =>
      cases mapped
      exact ⟨a, rfl, rfl⟩

/-- What is changed by each item in turn is changed by the last one after all others. -/
theorem exists_of_foldlM_concat_eq_ok {f : β → α → Except ε β} {items : List α} {item : α}
    {start b : β} (all : (items ++ [item]).foldlM f start = .ok b) :
    ∃ a, items.foldlM f start = .ok a ∧ f a item = .ok b := by
  rw [List.foldlM_append] at all
  obtain ⟨a, before, last⟩ := exists_of_bind_eq_ok all
  rw [List.foldlM_cons] at last
  obtain ⟨c, changes, same⟩ := exists_of_bind_eq_ok last
  cases same
  exact ⟨a, before, changes⟩

/-- What is tried gives this value exactly under a condition, and no other value. -/
def GivesIff (result : Except ε α) (value : α) (condition : Prop) : Prop :=
  ∀ a, result = .ok a ↔ a = value ∧ condition

section GivesIff

variable {result : Except ε α} {value : α} {b : β} {condition further : Prop}

theorem givesIff_ok (value : α) : GivesIff (.ok value : Except ε α) value True := by
  intro a
  rw [Except.ok.injEq, and_true, eq_comm]

theorem givesIff_error (error : ε) (value : α) : GivesIff (.error error) value False := by
  intro a
  exact ⟨nofun, fun never => never.2.elim⟩

theorem GivesIff.congr (gives : GivesIff result value condition) (same : condition ↔ further) :
    GivesIff result value further := by
  intro a
  rw [gives, same]

/-- What is given without the condition does not matter. -/
theorem GivesIff.of_imp {other : α} (gives : GivesIff result value condition)
    (same : condition → other = value) : GivesIff result other condition := by
  intro a
  rw [gives]
  refine and_congr_left fun met => ?_
  rw [same met]

theorem GivesIff.map (gives : GivesIff result value condition) (f : α → β) :
    GivesIff (result.map f) (f value) condition := by
  intro b
  constructor
  · intro mapped
    obtain ⟨a, found, rfl⟩ := exists_of_map_eq_ok mapped
    obtain ⟨rfl, met⟩ := (gives a).mp found
    exact ⟨rfl, met⟩
  · rintro ⟨rfl, met⟩
    rw [(gives value).mpr ⟨rfl, met⟩]
    rfl

/-- Two things tried one after the other give a value under the conditions of both. -/
theorem GivesIff.bind (gives : GivesIff first value condition)
    (later : GivesIff (next value) b further) :
    GivesIff (first >>= next) b (condition ∧ further) := by
  intro c
  constructor
  · intro both
    obtain ⟨a, found, rest⟩ := exists_of_bind_eq_ok both
    obtain ⟨rfl, met⟩ := (gives a).mp found
    obtain ⟨rfl, last⟩ := (later c).mp rest
    exact ⟨rfl, met, last⟩
  · rintro ⟨rfl, met, last⟩
    rw [(gives value).mpr ⟨rfl, met⟩, ok_bind]
    exact (later c).mpr ⟨rfl, last⟩

theorem GivesIff.assoc {γ : Type} {f : α → Except ε γ} {g : γ → Except ε β}
    (gives : GivesIff (first >>= f >>= g) b condition) :
    GivesIff (first >>= fun a => f a >>= g) b condition := by
  rwa [bind_assoc] at gives

end GivesIff

theorem exists_of_isOk {ε α : Type} {result : Except ε α} (ends : result.isOk = true) :
    ∃ a, result = .ok a := by
  cases result with
  | error e => contradiction
  | ok a => exact ⟨a, rfl⟩

theorem eq_ok_getD_of_isOk {ε α : Type} {result : Except ε α} (ends : result.isOk = true) (a : α) :
    result = .ok (result.toOption.getD a) := by
  obtain ⟨given, rfl⟩ := exists_of_isOk ends
  rfl

/-- What is tried for each item has results for all of them, in order, or it has none. -/
theorem mapM_eq_ok_iff {f : α → Except ε β} {items : List α} {results : List β} :
    items.mapM f = .ok results ↔
      List.Forall₂ (fun item result => f item = .ok result) items results := by
  induction items generalizing results with
  | nil =>
      rw [List.mapM_nil]
      cases results with
      | nil => exact ⟨fun _ => .nil, fun _ => rfl⟩
      | cons => exact ⟨nofun, nofun⟩
  | cons item items induction =>
      rw [List.mapM_cons]
      cases one : f item with
      | error e =>
          refine ⟨nofun, fun all => ?_⟩
          cases all with
          | cons here => cases one.symm.trans here
      | ok result =>
          cases others : items.mapM f with
          | error e =>
              refine ⟨nofun, fun all => ?_⟩
              cases all with
              | cons _ rest => cases others.symm.trans (induction.mpr rest)
          | ok found =>
              constructor
              · intro all
                cases all
                exact .cons one (induction.mp others)
              · intro all
                cases all with
                | cons here rest =>
                    cases one.symm.trans here
                    cases others.symm.trans (induction.mpr rest)
                    rfl

/-- What is tried for each item fails as it does for the first item for which it fails. -/
theorem mapM_eq_error_iff {f : α → Except ε β} {items : List α} :
    items.mapM f = .error error ↔
      ∃ before item after, items = before ++ item :: after ∧
        (∀ other ∈ before, ∃ result, f other = .ok result) ∧ f item = .error error := by
  induction items with
  | nil =>
      rw [List.mapM_nil]
      exact ⟨nofun, by simp⟩
  | cons item items induction =>
      rw [List.mapM_cons]
      cases one : f item with
      | error e =>
          rw [error_bind]
          constructor
          · intro fails
            cases fails
            exact ⟨[], item, items, rfl, by simp, one⟩
          · rintro ⟨before, failed, after, split, passed, fails⟩
            cases before with
            | nil =>
                cases split
                cases one.symm.trans fails
                rfl
            | cons first before =>
                cases split
                obtain ⟨result, passes⟩ := passed item List.mem_cons_self
                cases one.symm.trans passes
      | ok result =>
          have fails_iff : (do let results ← items.mapM f; pure (result :: results)) = .error error ↔
              items.mapM f = .error error := by
            cases items.mapM f with
            | error e => exact Iff.rfl
            | ok results => exact ⟨nofun, nofun⟩
          rw [ok_bind, fails_iff, induction]
          constructor
          · rintro ⟨before, failed, after, rfl, passed, fails⟩
            exact ⟨item :: before, failed, after, rfl,
              List.forall_mem_cons.mpr ⟨⟨result, one⟩, passed⟩, fails⟩
          · rintro ⟨before, failed, after, split, passed, fails⟩
            cases before with
            | nil =>
                cases split
                cases one.symm.trans fails
            | cons first before =>
                cases split
                exact ⟨before, failed, after, rfl,
                  (List.forall_mem_cons.mp passed).2, fails⟩

/-- The first of checks made one after the other that finds something finds this. -/
inductive FirstOf : List (ε → Prop) → ε → Prop where
  | here {check : ε → Prop} {checks : List (ε → Prop)} {error : ε} :
      check error → FirstOf (check :: checks) error
  | later {check : ε → Prop} {checks : List (ε → Prop)} {error : ε} :
      (∀ other, ¬check other) → FirstOf checks error → FirstOf (check :: checks) error

/-- What is tried fails first by the first check, and then by those after it. -/
theorem bind_eq_error_iff {check : ε → Prop} {checks : List (ε → Prop)}
    (fails : ∀ error, first = .error error ↔ check error)
    (further : ∀ a, first = .ok a → (next a = .error error ↔ FirstOf checks error)) :
    first >>= next = .error error ↔ FirstOf (check :: checks) error := by
  cases first with
  | error other =>
      constructor
      · intro failed
        cases failed
        exact .here ((fails _).mp rfl)
      · intro found
        cases found with
        | here finds =>
            cases (fails error).mpr finds
            rfl
        | later passes => exact (passes other ((fails other).mp rfl)).elim
  | ok a =>
      have passes : ∀ other, ¬check other := by
        intro other finds
        cases (fails other).mpr finds
      rw [ok_bind, further a rfl]
      constructor
      · exact .later passes
      · intro found
        cases found with
        | here finds => exact (passes error finds).elim
        | later _ rest => exact rest

/-- What is tried for each item fails first by the first item. -/
theorem mapM_bind_eq_error_iff {f : α → Except ε β} {γ : Type} {next : List β → Except ε γ}
    {check : α → ε → Prop} {items : List α} {checks : List (ε → Prop)}
    (fails : ∀ item error, f item = .error error ↔ check item error)
    (further : ∀ results, items.mapM f = .ok results →
      (next results = .error error ↔ FirstOf checks error)) :
    items.mapM f >>= next = .error error ↔ FirstOf (items.map check ++ checks) error := by
  induction items generalizing next with
  | nil => exact further [] rfl
  | cons item items induction =>
      rw [List.mapM_cons, bind_assoc]
      refine bind_eq_error_iff (fails item) fun result one => ?_
      rw [bind_assoc]
      refine induction fun results others => further (result :: results) ?_
      rw [List.mapM_cons, one, ok_bind, others]
      rfl

/-- What is changed by each item in turn fails first by the first item, whatever it has become. -/
theorem foldlM_bind_eq_error_iff {f : β → α → Except ε β} {γ : Type} {next : β → Except ε γ}
    {check : α → ε → Prop} {items : List α} {checks : List (ε → Prop)}
    (fails : ∀ b item error, f b item = .error error ↔ check item error)
    (further : ∀ b, next b = .error error ↔ FirstOf checks error) (start : β) :
    items.foldlM f start >>= next = .error error ↔ FirstOf (items.map check ++ checks) error := by
  induction items generalizing start with
  | nil => exact further start
  | cons item items induction =>
      rw [List.foldlM_cons, bind_assoc]
      exact bind_eq_error_iff (fails start item) fun b _ => induction b

theorem foldlM_eq_error_iff {f : β → α → Except ε β} {check : α → ε → Prop} {items : List α}
    (fails : ∀ b item error, f b item = .error error ↔ check item error) (start : β) :
    items.foldlM f start = .error error ↔ FirstOf (items.map check) error := by
  have ends (b : β) : (pure b : Except ε β) = .error error ↔ FirstOf [] error := ⟨nofun, nofun⟩
  have whole : items.foldlM f start >>= pure = _ ↔ _ := foldlM_bind_eq_error_iff fails ends start
  rwa [bind_pure, List.append_nil] at whole

end Baseline.Except
