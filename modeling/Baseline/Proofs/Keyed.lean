import Baseline.Keyed

/-!
# Laws of keyed entries
-/

namespace Baseline.Keyed

variable {β : Type} {m other : Keyed β} {key : String} {value : β}

theorem nodup_keys (m : Keyed β) : m.keys.Nodup := m.nodup

theorem mem_keys_iff : key ∈ m.keys ↔ ∃ value, (key, value) ∈ m.entries := by
  simp [keys]

theorem isEmpty_iff : m.isEmpty = true ↔ m.keys = [] := by
  simp [isEmpty, keys]

@[simp] theorem keys_empty : (∅ : Keyed β).keys = [] := rfl

theorem contains_eq_decide (m : Keyed β) (key : String) :
    m.contains key = decide (key ∈ m.keys) := by
  rw [Bool.eq_iff_iff, contains_iff, decide_eq_true_iff]

/-- What is found under a key is its only entry. -/
theorem get?_eq_some_iff : m.get? key = some value ↔ (key, value) ∈ m.entries := by
  obtain ⟨entries, nodup⟩ := m
  change entries.lookup key = some value ↔ (key, value) ∈ entries
  induction entries with
  | nil => simp
  | cons entry entries induction =>
      obtain ⟨first, content⟩ := entry
      rw [List.map_cons, List.nodup_cons] at nodup
      rw [List.lookup_cons, List.mem_cons]
      by_cases same : key = first
      · subst same
        have fresh : (key, value) ∉ entries := by
          intro member
          exact nodup.1 (List.mem_map.mpr ⟨(key, value), member, rfl⟩)
        simp [fresh, eq_comm]
      · have other : (key == first) = false := by simpa using same
        simp [same, other, induction nodup.2]

/-- Maps with the same entries in different orders have the same values. -/
theorem get?_eq_of_perm (perm : m.entries.Perm other.entries) (key : String) :
    m.get? key = other.get? key := by
  ext value
  rw [get?_eq_some_iff, get?_eq_some_iff, perm.mem_iff]

theorem get?_eq_none_iff : m.get? key = none ↔ key ∉ m.keys := by
  rw [mem_keys_iff, Option.eq_none_iff_forall_ne_some]
  simp [get?_eq_some_iff]

theorem keys_put_of_not_mem (absent : key ∉ m.keys) : (m.put key value).keys = m.keys ++ [key] := by
  rw [keys, entries_put_of_not_mem value absent]
  simp [keys]

theorem mem_keys_put {other : String} :
    other ∈ (m.put key value).keys ↔ other ∈ m.keys ∨ other = key := by
  by_cases present : key ∈ m.keys
  · rw [keys_put_of_mem value present]
    constructor
    · exact .inl
    · rintro (member | rfl)
      · exact member
      · exact present
  · rw [keys_put_of_not_mem present, List.mem_append, List.mem_singleton]

/-- The entries of a map in which a value was put are the one that was put and those that stood there
under other keys. -/
theorem mem_entries_put {entry : String × β} :
    entry ∈ (m.put key value).entries ↔
      entry = (key, value) ∨ entry ∈ m.entries ∧ entry.1 ≠ key := by
  by_cases present : key ∈ m.keys
  · have there : key ∈ m.entries.map Prod.fst := present
    rw [put, dif_pos there]
    simp only [replaceIn, List.mem_map, beq_iff_eq]
    constructor
    · rintro ⟨old, stored, rfl⟩
      split
      · exact .inl rfl
      · exact .inr ⟨stored, ‹_›⟩
    · rintro (rfl | ⟨stored, other⟩)
      · obtain ⟨old, stored, same⟩ := List.mem_map.mp there
        exact ⟨old, stored, if_pos same⟩
      · exact ⟨entry, stored, if_neg other⟩
  · have others : entry ∈ m.entries → entry.1 ≠ key := by
      rintro stored rfl
      exact present (List.mem_map_of_mem stored)
    rw [entries_put_of_not_mem value present, List.mem_append, List.mem_singleton, or_comm]
    exact or_congr_right ⟨fun stored => ⟨stored, others stored⟩, And.left⟩

/-- A put value is found under its key, and nothing else changes. -/
theorem get?_put (other : String) :
    (m.put key value).get? other = if other = key then some value else m.get? other := by
  ext found
  rw [get?_eq_some_iff, mem_entries_put]
  split
  · simp_all [eq_comm]
  · simp_all [get?_eq_some_iff]

/-- New keys are put at the end, in their order. -/
theorem entries_putAll (apart : ∀ key ∈ other.keys, key ∉ m.keys) :
    (m.putAll other).entries = m.entries ++ other.entries := by
  obtain ⟨entries, nodup⟩ := other
  change ((entries.foldl (fun m entry => m.put entry.1 entry.2) m).entries) = m.entries ++ entries
  change ∀ key ∈ entries.map Prod.fst, key ∉ m.keys at apart
  induction entries generalizing m with
  | nil => simp
  | cons entry entries induction =>
      obtain ⟨fresh, others⟩ := List.forall_mem_cons.mp apart
      rw [List.map_cons, List.nodup_cons] at nodup
      rw [List.foldl_cons, induction nodup.2, entries_put_of_not_mem entry.2 fresh]
      · simp
      · intro key member there
        rw [keys_put_of_not_mem fresh, List.mem_append, List.mem_singleton] at there
        rcases there with there | rfl
        · exact others key member there
        · exact nodup.1 member

theorem entries_ofList {entries : List (String × β)} (nodup : (entries.map Prod.fst).Nodup) :
    (ofList entries).entries = entries :=
  @entries_putAll β empty ⟨entries, nodup⟩ fun _ _ => List.not_mem_nil

theorem eq_of_entries_eq (same : m.entries = other.entries) : m = other := by
  cases m
  cases other
  simpa using same

end Baseline.Keyed
