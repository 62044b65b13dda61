import Baseline.FileSystem.Resolution
import Mathlib.Data.List.Infix

/-!
# File trees

In a file tree every entry has a name of its own and stands in a directory. This file says what
putting and removing an entry does to every address, and compares file systems entry by entry.
-/

namespace Baseline

/-- What an entry is, without what it holds. -/
def Entry.bare : Entry → Entry
  | .file _ _ => .file [] false
  | .directory _ => .directory false
  | .link target => .link target

namespace FileSystem

variable {fs other : FileSystem} {address above : Address} {name : String} {entry : Entry}

/-- Whether a directory stands at an address. -/
def hasDirectory (fs : FileSystem) (address : Address) : Bool :=
  match fs.find? address with
  | some (.directory _) => true
  | _ => false

/-- Whether a text names an entry, and does not point to a directory by its place. -/
def isName (name : String) : Bool := name != "." && name != ".."

/-- Every entry has a name and stands in a directory, and the current directory is there. -/
structure IsTree (fs : FileSystem) : Prop where
  named : ∀ entry ∈ fs.entries, isName (entry.1.getLastD ".") = true
  housed : ∀ entry ∈ fs.entries, fs.hasDirectory entry.1.dropLast = true
  started : fs.hasDirectory fs.current = true

instance (fs : FileSystem) : Decidable fs.IsTree :=
  decidable_of_iff
    ((∀ entry ∈ fs.entries, isName (entry.1.getLastD ".") = true) ∧
      (∀ entry ∈ fs.entries, fs.hasDirectory entry.1.dropLast = true) ∧
      fs.hasDirectory fs.current = true)
    ⟨fun ⟨named, housed, started⟩ => ⟨named, housed, started⟩,
      fun tree => ⟨tree.named, tree.housed, tree.started⟩⟩

theorem hasDirectory_iff :
    fs.hasDirectory address = true ↔ ∃ locked, fs.find? address = some (.directory locked) := by
  unfold hasDirectory
  split
  · rename_i locked found
    simp [found]
  · rename_i absent
    simp only [Bool.false_eq_true, false_iff, not_exists]
    intro locked found
    exact absent locked found

theorem hasDirectory_of_absent (absent : fs.find? address = none) :
    fs.hasDirectory address = false := by
  rw [hasDirectory, absent]

theorem hasDirectory_of_file {bytes : List UInt8} {locked : Bool}
    (found : fs.find? address = some (.file bytes locked)) : fs.hasDirectory address = false := by
  rw [hasDirectory, found]

theorem ne_link_of_hasDirectory (room : fs.hasDirectory address = true) (target : String) :
    fs.find? address ≠ some (.link target) := by
  obtain ⟨locked, found⟩ := hasDirectory_iff.mp room
  simp [found]

@[simp] theorem find?_nil (fs : FileSystem) : fs.find? [] = some (.directory false) := rfl

@[simp] theorem hasDirectory_nil (fs : FileSystem) : fs.hasDirectory [] = true := rfl

theorem isName_iff : isName name = true ↔ name ≠ "." ∧ name ≠ ".." := by
  simp [isName]

/-! ## Addresses -/

theorem isBelow_iff :
    isBelow above address = true ↔ ∃ names, names ≠ [] ∧ address = above ++ names := by
  simp only [isBelow, Bool.and_eq_true, List.isPrefixOf_iff_prefix, decide_eq_true_eq]
  constructor
  · rintro ⟨⟨names, rfl⟩, shorter⟩
    refine ⟨names, ?_, rfl⟩
    rintro rfl
    simp at shorter
  · rintro ⟨names, names_ne, rfl⟩
    refine ⟨List.prefix_append above names, ?_⟩
    have := List.length_pos_of_ne_nil names_ne
    rw [List.length_append]
    omega

theorem not_isBelow_self : isBelow above above = false := by
  simp [isBelow]

/-- An address at or below another one is the other one or lies below it. -/
theorem prefix_iff_eq_or_isBelow :
    above <+: address ↔ address = above ∨ isBelow above address = true := by
  rw [isBelow_iff]
  constructor
  · rintro ⟨names, rfl⟩
    rcases eq_or_ne names [] with rfl | names_ne
    · exact .inl (List.append_nil above)
    · exact .inr ⟨names, names_ne, rfl⟩
  · rintro (rfl | ⟨names, -, rfl⟩)
    · exact List.prefix_rfl
    · exact List.prefix_append above names

/-! ## Entries after a change -/

theorem find?_of_ne_nil (present : address ≠ []) :
    fs.find? address = fs.entries.lookup address := by
  cases address with
  | nil => exact (present rfl).elim
  | cons first rest => rfl

theorem mem_entries_of_find? (present : address ≠ []) (found : fs.find? address = some entry) :
    (address, entry) ∈ fs.entries := by
  rw [find?_of_ne_nil present, List.lookup_eq_some_iff] at found
  obtain ⟨before, after, split, -⟩ := found
  simp [split]

theorem find?_ne_none_of_mem (stored : (address, entry) ∈ fs.entries) :
    fs.find? address ≠ none := by
  cases address with
  | nil => simp
  | cons first rest =>
      intro absent
      rw [find?_of_ne_nil (by simp)] at absent
      have others := List.lookup_eq_none_iff.mp absent _ stored
      simp at others

theorem mem_children_iff :
    name ∈ fs.children address ↔ ∃ entry, (address ++ [name], entry) ∈ fs.entries := by
  simp only [children, List.mem_filterMap]
  constructor
  · rintro ⟨⟨other, entry⟩, stored, named⟩
    split at named
    · rename_i inside
      rcases List.eq_nil_or_concat other with rfl | ⟨parent, own, rfl⟩
      · simp at inside
      · rw [List.concat_eq_append] at stored named inside
        simp only [List.dropLast_concat, beq_iff_eq, Bool.and_eq_true] at inside
        simp only [List.getLast?_append, List.getLast?_singleton, Option.some_or,
          Option.some.injEq] at named
        obtain ⟨-, rfl⟩ := inside
        subst named
        exact ⟨entry, stored⟩
    · contradiction
  · rintro ⟨entry, stored⟩
    exact ⟨_, stored, by simp⟩

theorem lookup_filter_fst (keep : Address → Bool) (entries : List (Address × Entry)) :
    (entries.filter fun (address, _) => keep address).lookup address =
      if keep address then entries.lookup address else none := by
  induction entries with
  | nil => simp
  | cons first rest induction =>
      obtain ⟨here, stored⟩ := first
      rcases eq_or_ne address here with rfl | here_ne
      · cases kept : keep address <;> simp [kept, induction]
      · have differs : (address == here) = false := by simpa using here_ne
        cases kept : keep here <;> simp [kept, List.lookup_cons, differs, induction]

theorem find?_erase (fs : FileSystem) (address other : Address) :
    (fs.erase address).find? other =
      if other = address ∧ other ≠ [] then none else fs.find? other := by
  rcases eq_or_ne other [] with rfl | present
  · simp
  · rw [find?_of_ne_nil present, find?_of_ne_nil present]
    simp only [erase]
    rw [lookup_filter_fst (fun here => here != address)]
    by_cases same : other = address
    · subst same
      simp [present]
    · simp [same]

theorem find?_eraseBelow (fs : FileSystem) (above other : Address) :
    (fs.eraseBelow above).find? other =
      if isBelow above other then none else fs.find? other := by
  rcases eq_or_ne other [] with rfl | present
  · simp [isBelow]
  · rw [find?_of_ne_nil present, find?_of_ne_nil present]
    simp only [eraseBelow]
    rw [lookup_filter_fst (fun here => !isBelow above here)]
    cases isBelow above other <;> simp

theorem find?_put_self (present : address ≠ []) (entry : Entry) :
    (fs.put address entry).find? address = some entry := by
  rw [find?_of_ne_nil present]
  have gone : (fs.erase address).entries.lookup address = none := by
    rw [← find?_of_ne_nil present, find?_erase]
    simp [present]
  simp [put, List.lookup_append, gone]

/-- Putting an entry changes nothing but what stands at its address. -/
theorem find?_put (present : address ≠ []) (entry : Entry) (other : Address) :
    (fs.put address entry).find? other =
      if other = address then some entry else fs.find? other := by
  split
  · rename_i same
    rw [same, find?_put_self present]
  · rename_i differs
    exact find?_put_of_ne entry differs

/-! ## Trees -/

/-- What stands at an address stands in a directory. -/
def IsHoused (fs : FileSystem) : Prop :=
  ∀ address name entry, fs.find? (address ++ [name]) = some entry → fs.hasDirectory address = true

theorem IsTree.isHoused (tree : fs.IsTree) : fs.IsHoused := by
  intro address name entry found
  have stored := mem_entries_of_find? (by simp) found
  simpa using tree.housed _ stored

theorem IsTree.isName (tree : fs.IsTree) (found : fs.find? (address ++ [name]) = some entry) :
    isName name = true := by
  have stored := mem_entries_of_find? (by simp) found
  simpa using tree.named _ stored

/-- Above a directory there are only directories. -/
theorem IsHoused.dropLast (housed : fs.IsHoused) (found : fs.hasDirectory address = true) :
    fs.hasDirectory address.dropLast = true := by
  rcases List.eq_nil_or_concat address with rfl | ⟨parent, name, rfl⟩
  · simp
  · rw [List.concat_eq_append] at found ⊢
    obtain ⟨locked, found⟩ := hasDirectory_iff.mp found
    simpa using housed parent name _ found

theorem IsHoused.hasDirectory_of_prefix {names : List String} (housed : fs.IsHoused)
    (room : fs.hasDirectory (address ++ names) = true) : fs.hasDirectory address = true := by
  induction names generalizing address with
  | nil => simpa using room
  | cons name names induction =>
      have inside : fs.hasDirectory (address ++ [name]) = true := induction (by simpa using room)
      obtain ⟨locked, found⟩ := hasDirectory_iff.mp inside
      exact housed _ _ _ found

theorem IsHoused.eraseBelow (housed : fs.IsHoused) (above : Address) :
    (fs.eraseBelow above).IsHoused := by
  intro address name entry found
  rw [find?_eraseBelow] at found
  split at found
  · contradiction
  · rename_i outside
    obtain ⟨locked, there⟩ := hasDirectory_iff.mp (housed address name entry found)
    have kept : isBelow above address = false := by
      rw [Bool.eq_false_iff]
      intro below
      obtain ⟨names, names_ne, rfl⟩ := isBelow_iff.mp below
      exact outside (isBelow_iff.mpr ⟨names ++ [name], by simp, by simp⟩)
    refine hasDirectory_iff.mpr ⟨locked, ?_⟩
    rw [find?_eraseBelow, kept]
    exact there

/-- An entry may be removed where nothing stands below it. -/
theorem IsHoused.erase (housed : fs.IsHoused)
    (empty : ∀ name, fs.find? (address ++ [name]) = none) : (fs.erase address).IsHoused := by
  intro here other entry found
  rw [find?_erase] at found
  split at found
  · contradiction
  · obtain ⟨locked, there⟩ := hasDirectory_iff.mp (housed here other entry found)
    refine hasDirectory_iff.mpr ⟨locked, ?_⟩
    rw [find?_erase, if_neg ?_]
    · exact there
    · rintro ⟨rfl, -⟩
      rw [empty other] at found
      contradiction

/-- An entry may be put in a directory wherever no directory stands. -/
theorem IsHoused.put (housed : fs.IsHoused) (room : fs.hasDirectory address = true)
    (free : fs.hasDirectory (address ++ [name]) = false) (entry : Entry) :
    (fs.put (address ++ [name]) entry).IsHoused := by
  have kept {here : Address} (inside : fs.hasDirectory here = true) :
      (fs.put (address ++ [name]) entry).hasDirectory here = true := by
    obtain ⟨locked, there⟩ := hasDirectory_iff.mp inside
    refine hasDirectory_iff.mpr ⟨locked, ?_⟩
    rw [find?_put (by simp), if_neg ?_]
    · exact there
    · rintro rfl
      rw [inside] at free
      contradiction
  intro here other stored found
  rw [find?_put (by simp)] at found
  split at found
  · rename_i same
    obtain ⟨rfl, -⟩ := List.append_inj' same rfl
    exact kept room
  · exact kept (housed here other stored found)

/-! ## Comparison -/

/-- Each entry of a file system stands in the other one too, whatever it holds. -/
def Embeds (fs other : FileSystem) : Prop :=
  ∀ address entry, fs.find? address = some entry →
    (other.find? address).map Entry.bare = some entry.bare

theorem Embeds.refl (fs : FileSystem) : fs.Embeds fs := by
  intro address entry found
  simp [found]

/-- What stands somewhere stands there in the other file system, up to what it holds. -/
theorem Embeds.exists_bare (embeds : fs.Embeds other) (found : fs.find? address = some entry) :
    ∃ stored, other.find? address = some stored ∧ stored.bare = entry.bare := by
  have image := embeds address entry found
  rw [Option.map_eq_some_iff] at image
  exact image

theorem Embeds.trans {third : FileSystem} (first : fs.Embeds other) (second : other.Embeds third) :
    fs.Embeds third := by
  intro address entry found
  obtain ⟨stored, there, same⟩ := first.exists_bare found
  rw [second address stored there, same]

theorem Embeds.hasDirectory (embeds : fs.Embeds other) (found : fs.hasDirectory address = true) :
    other.hasDirectory address = true := by
  obtain ⟨locked, there⟩ := hasDirectory_iff.mp found
  obtain ⟨stored, stands, same⟩ := embeds.exists_bare there
  cases stored with
  | directory lock => exact hasDirectory_iff.mpr ⟨lock, stands⟩
  | file bytes lock => simp [Entry.bare] at same
  | link target => simp [Entry.bare] at same

theorem Embeds.link {target : String} (embeds : fs.Embeds other)
    (found : fs.find? address = some (.link target)) :
    other.find? address = some (.link target) := by
  obtain ⟨stored, stands, same⟩ := embeds.exists_bare found
  cases stored with
  | link stored =>
      simp only [Entry.bare, Entry.link.injEq] at same
      rw [stands, same]
  | file bytes lock => simp [Entry.bare] at same
  | directory lock => simp [Entry.bare] at same

theorem Embeds.file {bytes : List UInt8} {locked : Bool} (embeds : fs.Embeds other)
    (found : fs.find? address = some (.file bytes locked)) :
    ∃ bytes locked, other.find? address = some (.file bytes locked) := by
  obtain ⟨stored, stands, same⟩ := embeds.exists_bare found
  cases stored with
  | file bytes locked => exact ⟨bytes, locked, stands⟩
  | directory locked => simp [Entry.bare] at same
  | link target => simp [Entry.bare] at same

theorem embeds_eraseBelow (fs : FileSystem) (above : Address) :
    (fs.eraseBelow above).Embeds fs := by
  intro address entry found
  rw [find?_eraseBelow] at found
  split at found
  · contradiction
  · simp [found]

/-- The second file system has the entries of the first, and besides them directories where nothing
stood. -/
def AddsDirectories (fs other : FileSystem) : Prop :=
  ∀ address, other.find? address = fs.find? address ∨
    fs.find? address = none ∧ other.hasDirectory address = true

theorem AddsDirectories.refl (fs : FileSystem) : fs.AddsDirectories fs :=
  fun _ => .inl rfl

theorem AddsDirectories.trans {third : FileSystem} (first : fs.AddsDirectories other)
    (second : other.AddsDirectories third) : fs.AddsDirectories third := by
  intro address
  rcases second address with same | ⟨absent, room⟩
  · rcases first address with before | ⟨absent, room⟩
    · exact .inl (same.trans before)
    · refine .inr ⟨absent, ?_⟩
      rw [hasDirectory, same]
      exact room
  · rcases first address with before | ⟨-, there⟩
    · exact .inr ⟨before.symm.trans absent, room⟩
    · obtain ⟨locked, found⟩ := hasDirectory_iff.mp there
      rw [absent] at found
      contradiction

/-- What stood somewhere still stands there. -/
theorem AddsDirectories.find? (adds : fs.AddsDirectories other)
    (found : fs.find? address = some entry) : other.find? address = some entry := by
  rcases adds address with same | ⟨absent, -⟩
  · exact same.trans found
  · rw [absent] at found
    contradiction

theorem AddsDirectories.embeds (adds : fs.AddsDirectories other) : fs.Embeds other := by
  intro address entry found
  simp [adds.find? found]

/-- A directory put where nothing stood is the only thing added. -/
theorem addsDirectories_put (absent : fs.find? address = none) :
    fs.AddsDirectories (fs.put address (.directory false)) := by
  have present : address ≠ [] := by
    rintro rfl
    simp at absent
  intro other
  rcases eq_or_ne other address with rfl | differs
  · exact .inr ⟨absent, hasDirectory_iff.mpr ⟨false, find?_put_self present _⟩⟩
  · exact .inl (find?_put_of_ne _ differs)

end FileSystem

end Baseline
