import Mathlib.Data.List.Forall2

/-!
# Lists with gaps

The stars of a name pattern take any characters, and the globstars of a glob any names. Either is a
gap of a list; what is no gap takes one member. A list that takes another one also takes a part of
that one in which all gaps are empty, and where the lengths leave nothing to the gaps, the members
meet one by one.
-/

namespace Baseline.Glob

variable {α β γ δ : Type} {isGap : α → Bool} {accepts : α → β → Prop} {a : α} {b : β}
  {as : List α} {bs : List β}

/-- One list takes another one: a gap takes any run of members, and everything else one member that
it accepts. -/
inductive Takes (isGap : α → Bool) (accepts : α → β → Prop) : List α → List β → Prop
  | nil : Takes isGap accepts [] []
  | gap {a : α} {as : List α} {bs : List β} (run : List β) :
      isGap a = true → Takes isGap accepts as bs → Takes isGap accepts (a :: as) (run ++ bs)
  | single {a : α} {as : List α} {b : β} {bs : List β} :
      isGap a = false → accepts a b → Takes isGap accepts as bs →
        Takes isGap accepts (a :: as) (b :: bs)

/-- The members that are no gaps. -/
def singles (isGap : α → Bool) (as : List α) : List α :=
  as.filter fun a => !isGap a

theorem singles_gap (gap : isGap a = true) (as : List α) :
    singles isGap (a :: as) = singles isGap as := by
  simp [singles, gap]

theorem singles_single (single : isGap a = false) (as : List α) :
    singles isGap (a :: as) = a :: singles isGap as := by
  simp [singles, single]

theorem mem_singles_iff : a ∈ singles isGap as ↔ a ∈ as ∧ isGap a = false := by
  simp [singles]

theorem exists_singles_eq (member : a ∈ as) (single : isGap a = false) :
    ∃ first second, singles isGap as = first ++ a :: second :=
  List.append_of_mem (mem_singles_iff.mpr ⟨member, single⟩)

theorem takes_gap_iff (gap : isGap a = true) :
    Takes isGap accepts (a :: as) bs ↔
      ∃ run kept, bs = run ++ kept ∧ Takes isGap accepts as kept := by
  constructor
  · intro taken
    cases taken with
    | gap run _ taken => exact ⟨run, _, rfl, taken⟩
    | single single _ _ => exact (Bool.false_ne_true (single.symm.trans gap)).elim
  · rintro ⟨run, kept, rfl, taken⟩
    exact .gap run gap taken

theorem takes_single_iff (single : isGap a = false) :
    Takes isGap accepts (a :: as) bs ↔
      ∃ b kept, bs = b :: kept ∧ accepts a b ∧ Takes isGap accepts as kept := by
  constructor
  · intro taken
    cases taken with
    | gap _ gap _ => exact (Bool.false_ne_true (single.symm.trans gap)).elim
    | single _ accepted taken => exact ⟨_, _, rfl, accepted, taken⟩
  · rintro ⟨b, kept, rfl, accepted, taken⟩
    exact .single single accepted taken

/-- A list takes what its single members accept one by one. -/
theorem takes_of_forall₂ (each : List.Forall₂ accepts (singles isGap as) bs) :
    Takes isGap accepts as bs := by
  induction as generalizing bs with
  | nil =>
      cases each
      exact .nil
  | cons a as induction =>
      cases kind : isGap a with
      | true =>
          rw [singles_gap kind] at each
          exact .gap [] kind (induction each)
      | false =>
          rw [singles_single kind] at each
          cases each with
          | cons accepted each => exact .single kind accepted (induction each)

/-- What is taken has a part that the single members accept one by one. -/
theorem Takes.exists_forall₂ (taken : Takes isGap accepts as bs) :
    ∃ tight, tight.Sublist bs ∧ List.Forall₂ accepts (singles isGap as) tight := by
  induction taken with
  | nil => exact ⟨[], .slnil, .nil⟩
  | gap run kind _ induction =>
      obtain ⟨tight, part, each⟩ := induction
      rw [singles_gap kind]
      exact ⟨tight, part.trans (List.sublist_append_right run _), each⟩
  | single kind accepted _ induction =>
      obtain ⟨tight, part, each⟩ := induction
      rw [singles_single kind]
      exact ⟨_ :: tight, part.cons_cons _, .cons accepted each⟩

/-- What is no longer than the single members is accepted one by one. -/
theorem Takes.forall₂ (taken : Takes isGap accepts as bs)
    (same : (singles isGap as).length = bs.length) :
    List.Forall₂ accepts (singles isGap as) bs := by
  obtain ⟨tight, part, each⟩ := taken.exists_forall₂
  rwa [← part.eq_of_length (each.length_eq.symm.trans same)]

/-- Maps that keep the gaps and what is accepted keep what is taken. -/
theorem Takes.map {isGap' : γ → Bool} {accepts' : γ → δ → Prop} {f : α → γ} {g : β → δ}
    (taken : Takes isGap accepts as bs) (gaps : ∀ a, isGap' (f a) = isGap a)
    (kept : ∀ a ∈ as, ∀ b ∈ bs, isGap a = false → accepts a b → accepts' (f a) (g b)) :
    Takes isGap' accepts' (as.map f) (bs.map g) := by
  induction taken with
  | nil => exact .nil
  | gap run kind _ induction =>
      rw [List.map_cons, List.map_append]
      refine .gap _ ((gaps _).trans kind) (induction fun a there b here => ?_)
      exact kept a (List.mem_cons_of_mem _ there) b (List.mem_append_right _ here)
  | single kind accepted _ induction =>
      refine .single ((gaps _).trans kind)
        (kept _ List.mem_cons_self _ List.mem_cons_self kind accepted)
        (induction fun a there b here => ?_)
      exact kept a (List.mem_cons_of_mem _ there) b (List.mem_cons_of_mem _ here)

theorem singles_map {isGap' : γ → Bool} {f : α → γ} (gaps : ∀ a, isGap' (f a) = isGap a)
    (as : List α) : singles isGap' (as.map f) = (singles isGap as).map f := by
  rw [singles, singles, List.filter_map]
  refine congrArg (List.map f) (List.filter_congr fun a _ => ?_)
  rw [Function.comp, gaps]

/-- What one member of a list accepts can be replaced by anything else that it accepts. -/
theorem exists_of_forall₂_append_cons {first second : List α}
    (each : List.Forall₂ accepts (first ++ a :: second) bs) :
    ∃ before b after, bs = before ++ b :: after ∧ first.length = before.length ∧ accepts a b ∧
      ∀ other, accepts a other →
        List.Forall₂ accepts (first ++ a :: second) (before ++ other :: after) := by
  induction first generalizing bs with
  | nil =>
      cases each with
      | cons accepted each => exact ⟨[], _, _, rfl, rfl, accepted, fun _ other => .cons other each⟩
  | cons member first induction =>
      cases each with
      | cons accepted each =>
          obtain ⟨before, b, after, rfl, same, here, replaced⟩ := induction each
          exact ⟨_ :: before, b, after, rfl, congrArg Nat.succ same, here,
            fun other taken => .cons accepted (replaced other taken)⟩

/-- Members at the same place meet. -/
theorem forall₂_append_cons {first second : List α} {before after : List β}
    (each : List.Forall₂ accepts (first ++ a :: second) (before ++ b :: after))
    (same : first.length = before.length) : accepts a b := by
  obtain ⟨start, met, rest, parted, also, accepted, -⟩ := exists_of_forall₂_append_cons each
  obtain ⟨-, tails⟩ := List.append_inj parted (same.symm.trans also)
  rwa [(List.cons.inj tails).1]

theorem exists_of_mem_forall₂ (each : List.Forall₂ accepts as bs) (member : b ∈ bs) :
    ∃ a ∈ as, accepts a b := by
  induction each with
  | nil => cases member
  | cons accepted _ induction =>
      rcases List.mem_cons.mp member with rfl | later
      · exact ⟨_, List.mem_cons_self, accepted⟩
      · obtain ⟨a, there, also⟩ := induction later
        exact ⟨a, List.mem_cons_of_mem _ there, also⟩

theorem exists_forall₂ (some : ∀ a ∈ as, ∃ b, accepts a b) : ∃ bs, List.Forall₂ accepts as bs := by
  induction as with
  | nil => exact ⟨[], .nil⟩
  | cons a as induction =>
      obtain ⟨⟨b, accepted⟩, others⟩ := List.forall_mem_cons.mp some
      obtain ⟨bs, each⟩ := induction others
      exact ⟨b :: bs, .cons accepted each⟩

/-- Each single member accepts something of what is taken. -/
theorem Takes.exists_accepted (taken : Takes isGap accepts as bs) (member : a ∈ as)
    (single : isGap a = false) : ∃ b ∈ bs, accepts a b := by
  obtain ⟨tight, part, each⟩ := taken.exists_forall₂
  obtain ⟨first, second, parted⟩ := exists_singles_eq member single
  rw [parted] at each
  obtain ⟨before, b, after, rfl, -, accepted, -⟩ := exists_of_forall₂_append_cons each
  exact ⟨b, part.subset (by simp), accepted⟩

end Baseline.Glob
