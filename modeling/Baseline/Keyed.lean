/-!
# Keyed entries in order

A map from texts that remembers the order in which its keys were first put. Putting a key again
replaces its value and leaves it in its place.
-/

namespace Baseline

/-- Entries with different keys, in the order in which the keys were first put. -/
structure Keyed (β : Type) where
  entries : List (String × β)
  nodup : (entries.map Prod.fst).Nodup

namespace Keyed

variable {β γ : Type}

/-- No entries. -/
def empty : Keyed β := ⟨[], List.nodup_nil⟩

instance : EmptyCollection (Keyed β) := ⟨empty⟩

instance : Inhabited (Keyed β) := ⟨empty⟩

/-- The keys in order. -/
def keys (m : Keyed β) : List String := m.entries.map Prod.fst

/-- The values in the order of their keys. -/
def values (m : Keyed β) : List β := m.entries.map Prod.snd

/-- The number of entries. -/
def size (m : Keyed β) : Nat := m.entries.length

/-- No key has an entry. -/
def isEmpty (m : Keyed β) : Bool := m.entries.isEmpty

/-- The value of a key. -/
def get? (m : Keyed β) (key : String) : Option β := m.entries.lookup key

/-- Whether a key has an entry. -/
def contains (m : Keyed β) (key : String) : Bool := m.entries.any (·.1 == key)

theorem contains_iff {m : Keyed β} {key : String} : m.contains key = true ↔ key ∈ m.keys := by
  simp [contains, keys]

/-- The entries with the value of `key` replaced, if it is there. -/
def replaceIn (key : String) (value : β) (entries : List (String × β)) : List (String × β) :=
  entries.map fun entry => if entry.1 == key then (key, value) else entry

theorem map_fst_replaceIn (key : String) (value : β) (entries : List (String × β)) :
    (replaceIn key value entries).map Prod.fst = entries.map Prod.fst := by
  induction entries with
  | nil => rfl
  | cons entry rest ih =>
    simp only [replaceIn, List.map_cons, List.cons.injEq] at ih ⊢
    refine ⟨?_, ih⟩
    split
    · simp_all
    · rfl

/-- The map with one value put: in the key's place if it has one, else at the end. -/
def put (m : Keyed β) (key : String) (value : β) : Keyed β :=
  if h : key ∈ m.entries.map Prod.fst then
    ⟨replaceIn key value m.entries, by rw [map_fst_replaceIn]; exact m.nodup⟩
  else
    ⟨m.entries ++ [(key, value)], by
      rw [List.map_append, List.nodup_append]
      refine ⟨m.nodup, by simp, ?_⟩
      intro a ha b hb
      simp only [List.map_cons, List.map_nil, List.mem_singleton] at hb
      subst hb
      rintro rfl
      exact h ha⟩

theorem keys_put_of_mem {m : Keyed β} {key : String} (value : β) (h : key ∈ m.keys) :
    (m.put key value).keys = m.keys := by
  have h : key ∈ m.entries.map Prod.fst := h
  unfold put
  rw [dif_pos h]
  exact map_fst_replaceIn key value m.entries

theorem entries_put_of_not_mem {m : Keyed β} {key : String} (value : β) (h : key ∉ m.keys) :
    (m.put key value).entries = m.entries ++ [(key, value)] := by
  have h : key ∉ m.entries.map Prod.fst := h
  unfold put
  rw [dif_neg h]

/-- The map of a list of entries, a later entry overwriting an earlier one with its key. -/
def ofList (entries : List (String × β)) : Keyed β :=
  entries.foldl (fun m entry => m.put entry.1 entry.2) empty

/-- The map with the entries of another one put in their order. -/
def putAll (m other : Keyed β) : Keyed β :=
  other.entries.foldl (fun m entry => m.put entry.1 entry.2) m

/-- The map with every value changed. -/
def mapValues (f : β → γ) (m : Keyed β) : Keyed γ :=
  ⟨m.entries.map fun entry => (entry.1, f entry.2), by
    have : (m.entries.map fun entry => (entry.1, f entry.2)).map Prod.fst =
        m.entries.map Prod.fst := by
      rw [List.map_map]; rfl
    rw [this]
    exact m.nodup⟩

@[simp] theorem keys_mapValues (f : β → γ) (m : Keyed β) : (m.mapValues f).keys = m.keys := by
  simp [keys, mapValues, Function.comp_def]

@[simp] theorem entries_empty : (∅ : Keyed β).entries = [] := rfl

end Keyed

end Baseline
