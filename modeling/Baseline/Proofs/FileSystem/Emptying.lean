import Baseline.FileSystem.Access
import Baseline.Proofs.FileSystem.Tree

/-!
# Emptying a directory

What is below a directory is removed entry by entry. If every directory there can be read, nothing is
left. Otherwise the removal stops, and what is left is a part of what there was: the directories that
cannot be read are still there, with all that is above and below them.
-/

namespace Baseline.FileSystem

variable {fs after : FileSystem} {address directory place : Address} {name : String}
  {names : List String} {entry : Entry} {fuel : Nat}

/-- A directory at or below an address cannot be read. -/
def IsBarred (fs : FileSystem) (address : Address) : Prop :=
  ∃ place, address <+: place ∧ fs.find? place = some (.directory true)

/-- A part of a file system is left after a removal below a directory. The directories that cannot be
read are in it, with all that is below them. -/
structure Remains (fs : FileSystem) (directory : Address) (after : FileSystem) : Prop where
  housed : after.IsHoused
  inside : ∀ place, after.find? place = fs.find? place ∨ after.find? place = none
  outside : ∀ place, isBelow directory place = false → after.find? place = fs.find? place
  barred : ∀ place names, directory <+: place → fs.find? place = some (.directory true) →
    after.find? (place ++ names) = fs.find? (place ++ names)

/-! ## The depth of a file system -/

theorem length_le_foldl_max (entries : List (Address × Entry)) (longest : Nat) :
    longest ≤ entries.foldl (fun longest (address, _) => max longest address.length) longest ∧
      ∀ entry ∈ entries, entry.1.length ≤
        entries.foldl (fun longest (address, _) => max longest address.length) longest := by
  induction entries generalizing longest with
  | nil => simp
  | cons first entries induction =>
      obtain ⟨more, below⟩ := induction (max longest first.1.length)
      rw [List.foldl_cons]
      refine ⟨(le_max_left _ _).trans more, fun entry member => ?_⟩
      rcases List.mem_cons.mp member with rfl | member
      · exact (le_max_right _ _).trans more
      · exact below entry member

theorem length_le_depth (stored : (address, entry) ∈ fs.entries) : address.length ≤ fs.depth :=
  (length_le_foldl_max fs.entries 0).2 _ stored

/-! ## Removing an entry and what is below it -/

/-- The file system without an entry and what is below it. -/
def prune (fs : FileSystem) (address : Address) : FileSystem := (fs.eraseBelow address).erase address

theorem find?_prune (present : address ≠ []) (other : Address) :
    (fs.prune address).find? other = if address <+: other then none else fs.find? other := by
  rw [prune, find?_erase, find?_eraseBelow]
  by_cases same : other = address
  · subst same
    simp [present]
  · simp [same, prefix_iff_eq_or_isBelow]

theorem IsHoused.prune (housed : fs.IsHoused) (address : Address) : (fs.prune address).IsHoused := by
  refine (housed.eraseBelow address).erase fun name => ?_
  rw [find?_eraseBelow, if_pos (isBelow_iff.mpr ⟨[name], by simp, rfl⟩)]

theorem prune_eq (fs : FileSystem) (address : Address) :
    fs.prune address =
      { fs with entries := fs.entries.filter fun (other, _) => ¬address <+: other } := by
  rw [prune, erase, eraseBelow, List.filter_filter]
  congr 1
  refine List.filter_congr fun stored _ => ?_
  rw [Bool.eq_iff_iff]
  simp [prefix_iff_eq_or_isBelow]

/-- The file system without entries of a directory and what is below them. -/
def pruneEach (fs : FileSystem) (directory : Address) (names : List String) : FileSystem :=
  names.foldl (fun fs name => fs.prune (directory ++ [name])) fs

theorem pruneEach_eq (fs : FileSystem) (directory : Address) (names : List String) :
    fs.pruneEach directory names =
      { fs with entries := fs.entries.filter fun (other, _) =>
          ∀ name ∈ names, ¬directory ++ [name] <+: other } := by
  rw [pruneEach]
  induction names generalizing fs with
  | nil => simp
  | cons name names induction =>
      rw [List.foldl_cons, induction, prune_eq, List.filter_filter]
      congr 1
      refine List.filter_congr fun stored _ => ?_
      rw [Bool.eq_iff_iff]
      simp [and_comm]

/-- What stands at an address stands in directories, up to the root. -/
theorem IsHoused.hasDirectory_above (housed : fs.IsHoused)
    (found : fs.find? (address ++ name :: names) ≠ none) : fs.hasDirectory address = true := by
  obtain ⟨entry, found⟩ := Option.ne_none_iff_exists'.mp found
  rcases List.eq_nil_or_concat (name :: names) with empty | ⟨before, last, split⟩
  · contradiction
  · rw [split, List.concat_eq_append, ← List.append_assoc] at found
    exact housed.hasDirectory_of_prefix (housed _ _ _ found)

/-- What is stored below a directory is one of its entries or stands below one. -/
theorem isBelow_iff_of_mem (housed : fs.IsHoused) (stored : (place, entry) ∈ fs.entries) :
    isBelow directory place = true ↔ ∃ name ∈ fs.children directory, directory ++ [name] <+: place := by
  rw [isBelow_iff]
  constructor
  · rintro ⟨names, names_ne, rfl⟩
    obtain ⟨name, names, rfl⟩ := List.exists_cons_of_ne_nil names_ne
    refine ⟨name, ?_, names, by simp⟩
    cases names with
    | nil => exact mem_children_iff.mpr ⟨entry, stored⟩
    | cons next names =>
        have spelled : directory ++ name :: next :: names = (directory ++ [name]) ++ next :: names := by
          simp
        rw [spelled] at stored
        obtain ⟨locked, found⟩ :=
          hasDirectory_iff.mp (housed.hasDirectory_above (find?_ne_none_of_mem stored))
        exact mem_children_iff.mpr ⟨_, mem_entries_of_find? (by simp) found⟩
  · rintro ⟨name, -, names, rfl⟩
    exact ⟨name :: names, by simp, by simp⟩

/-- Removing all entries of a directory removes what is below it. -/
theorem pruneEach_children (housed : fs.IsHoused) (directory : Address) :
    fs.pruneEach directory (fs.children directory) = fs.eraseBelow directory := by
  rw [pruneEach_eq, eraseBelow]
  congr 1
  refine List.filter_congr ?_
  rintro ⟨place, entry⟩ stored
  rw [Bool.eq_iff_iff]
  simp [← Bool.not_eq_true, isBelow_iff_of_mem housed stored]

/-- Where no directory stands, nothing stands below. -/
theorem prune_of_not_hasDirectory (housed : fs.IsHoused)
    (other : fs.hasDirectory address = false) : fs.prune address = fs.erase address := by
  have nothing : fs.eraseBelow address = fs := by
    rw [eraseBelow]
    congr 1
    refine List.filter_eq_self.mpr ?_
    rintro ⟨place, entry⟩ stored
    rw [Bool.not_eq_true', Bool.eq_false_iff]
    intro below
    obtain ⟨names, names_ne, rfl⟩ := isBelow_iff.mp below
    obtain ⟨name, names, rfl⟩ := List.exists_cons_of_ne_nil names_ne
    rw [housed.hasDirectory_above (find?_ne_none_of_mem stored)] at other
    contradiction
  rw [prune, nothing]

/-! ## Directories that cannot be read -/

/-- Where something is removed that has no barred directory, the others are barred as before. -/
theorem isBarred_prune_iff (present : place ≠ []) (free : ¬fs.IsBarred place) :
    (fs.prune place).IsBarred address ↔ fs.IsBarred address := by
  constructor
  · rintro ⟨other, above, found⟩
    rw [find?_prune present] at found
    split at found
    · contradiction
    · exact ⟨other, above, found⟩
  · rintro ⟨other, above, found⟩
    refine ⟨other, above, ?_⟩
    rw [find?_prune present, if_neg fun inside => free ⟨other, inside, found⟩]
    exact found

theorem IsHoused.hasDirectory_of_isBarred (housed : fs.IsHoused) (barred : fs.IsBarred address) :
    fs.hasDirectory address = true := by
  obtain ⟨_, ⟨names, rfl⟩, found⟩ := barred
  exact housed.hasDirectory_of_prefix (hasDirectory_iff.mpr ⟨true, found⟩)

theorem Remains.refl (housed : fs.IsHoused) (directory : Address) : fs.Remains directory fs :=
  ⟨housed, fun _ => .inl rfl, fun _ _ => rfl, fun _ _ _ _ => rfl⟩

/-- A directory that cannot be read stands below one that can, in one of its entries. -/
theorem prefix_of_prefix_append (readable : fs.find? directory ≠ some (.directory true))
    (above : directory <+: place) (found : fs.find? place = some (.directory true))
    (within : directory ++ [name] <+: place ++ names) : directory ++ [name] <+: place := by
  obtain ⟨more, rfl⟩ := above
  cases more with
  | nil =>
      rw [List.append_nil] at found
      exact (readable found).elim
  | cons next more =>
      refine List.prefix_of_prefix_length_le within (List.prefix_append _ _) ?_
      simp

/-- The removal goes on after an entry of a directory that was not barred. -/
theorem Remains.of_prune (remains : (fs.prune (directory ++ [name])).Remains directory after)
    (readable : fs.find? directory ≠ some (.directory true))
    (free : ¬fs.IsBarred (directory ++ [name])) : fs.Remains directory after := by
  have pruned := @find?_prune fs (directory ++ [name]) (by simp)
  obtain ⟨housed, inside, outside, barred⟩ := remains
  refine ⟨housed, ?_, ?_, ?_⟩
  · intro place
    rcases inside place with same | gone
    · rw [same, pruned]
      split
      · exact .inr rfl
      · exact .inl rfl
    · exact .inr gone
  · intro place apart
    rw [outside place apart, pruned, if_neg ?_]
    rintro ⟨names, rfl⟩
    rw [Bool.eq_false_iff] at apart
    exact apart (isBelow_iff.mpr ⟨name :: names, by simp, by simp⟩)
  · intro place names above found
    have kept (names : List String) :
        (fs.prune (directory ++ [name])).find? (place ++ names) = fs.find? (place ++ names) := by
      rw [pruned, if_neg ?_]
      intro within
      exact free ⟨place, prefix_of_prefix_append readable above found within, found⟩
    have stands := kept []
    rw [List.append_nil, found] at stands
    rw [barred place names above stands, kept]

/-- The removal stops below an entry of a directory that can be read. -/
theorem Remains.of_child (remains : fs.Remains (directory ++ [name]) after)
    (readable : fs.find? directory ≠ some (.directory true)) : fs.Remains directory after := by
  obtain ⟨housed, inside, outside, barred⟩ := remains
  refine ⟨housed, inside, ?_, ?_⟩
  · intro place apart
    apply outside
    rw [Bool.eq_false_iff] at apart ⊢
    intro below
    obtain ⟨names, -, rfl⟩ := isBelow_iff.mp below
    exact apart (isBelow_iff.mpr ⟨name :: names, by simp, by simp⟩)
  · intro place names above found
    by_cases within : directory ++ [name] <+: place ++ names
    · exact barred place names (prefix_of_prefix_append readable above found within) found
    · apply outside
      rw [Bool.eq_false_iff]
      exact fun below => within (prefix_iff_eq_or_isBelow.mpr (.inr below))

/-! ## The removal -/

/-- What is below a directory is removed, or the removal stops because a directory is barred. -/
inductive Empties (fs : FileSystem) (directory : Address) : FileSystem × Option Address → Prop
  | emptied : ¬fs.IsBarred directory → Empties fs directory (fs.eraseBelow directory, none)
  | stopped {after : FileSystem} {stop : Address} :
      fs.IsBarred directory → fs.Remains directory after → Empties fs directory (after, some stop)

theorem mem_entries_prune {stored : Address × Entry} (member : stored ∈ (fs.prune address).entries) :
    stored ∈ fs.entries := by
  rw [prune_eq] at member
  exact List.mem_of_mem_filter member

/-- An entry that is not barred is removed with what is below it. -/
theorem removeEach_cons {empty : FileSystem → Address → FileSystem × Option Address}
    (housed : fs.IsHoused) (free : ¬fs.IsBarred (directory ++ [name]))
    (empties : fs.hasDirectory (directory ++ [name]) = true →
      fs.Empties (directory ++ [name]) (empty fs (directory ++ [name]))) :
    removeEach empty directory fs (name :: names) =
      removeEach empty directory (fs.prune (directory ++ [name])) names := by
  cases room : fs.hasDirectory (directory ++ [name]) with
  | true =>
      obtain ⟨locked, found⟩ := hasDirectory_iff.mp room
      have all := empties room
      generalize removed : empty fs (directory ++ [name]) = result at all
      cases all with
      | emptied => simp only [removeEach, found, removed, prune]
      | stopped barred => exact (free barred).elim
  | false =>
      rw [prune_of_not_hasDirectory housed room]
      cases found : fs.find? (directory ++ [name]) with
      | none => simp only [removeEach, found]
      | some entry =>
          cases entry with
          | directory locked =>
              rw [hasDirectory_iff.mpr ⟨locked, found⟩] at room
              contradiction
          | file => simp only [removeEach, found]
          | link => simp only [removeEach, found]

/-- Entries of a directory are removed, or the removal stops because one of them is barred. -/
theorem removeEach_cases {empty : FileSystem → Address → FileSystem × Option Address}
    (housed : fs.IsHoused) (readable : fs.find? directory ≠ some (.directory true))
    (each : ∀ (before : FileSystem) (name : String), before.IsHoused →
      (∀ entry ∈ before.entries, entry ∈ fs.entries) →
      before.hasDirectory (directory ++ [name]) = true →
      before.Empties (directory ++ [name]) (empty before (directory ++ [name]))) :
    (∀ name ∈ names, ¬fs.IsBarred (directory ++ [name])) ∧
        removeEach empty directory fs names = (fs.pruneEach directory names, none) ∨
      (∃ name ∈ names, fs.IsBarred (directory ++ [name])) ∧
        ∃ after stop, removeEach empty directory fs names = (after, some stop) ∧
          fs.Remains directory after := by
  induction names generalizing fs with
  | nil => exact .inl ⟨by simp, rfl⟩
  | cons name names induction =>
      have first := each fs name housed fun _ member => member
      by_cases free : fs.IsBarred (directory ++ [name])
      · have room := housed.hasDirectory_of_isBarred free
        obtain ⟨locked, found⟩ := hasDirectory_iff.mp room
        have all := first room
        generalize removed : empty fs (directory ++ [name]) = result at all
        cases all with
        | emptied never => exact (never free).elim
        | @stopped after stop _ remains =>
            refine .inr ⟨⟨name, List.mem_cons_self, free⟩, after, stop, ?_,
              remains.of_child readable⟩
            simp only [removeEach, found, removed]
      · have pruned := @find?_prune fs (directory ++ [name]) (by simp)
        have kept : (fs.prune (directory ++ [name])).find? directory ≠ some (.directory true) := by
          rw [pruned, if_neg ?_]
          · exact readable
          · intro within
            exact absurd within.length_le (by simp)
        have barred (place : Address) := @isBarred_prune_iff fs place _ (by simp) free
        have further := induction (housed.prune _) kept fun before name houses fewer =>
          each before name houses fun entry member => mem_entries_prune (fewer entry member)
        rw [removeEach_cons housed free first]
        rcases further with ⟨never, result⟩ |
          ⟨⟨other, member, stops⟩, after, stop, result, remains⟩
        · refine .inl ⟨?_, result⟩
          simpa [free, barred] using never
        · exact .inr ⟨⟨other, List.mem_cons_of_mem _ member, (barred _).mp stops⟩, after, stop,
            result, remains.of_prune readable free⟩

theorem isBarred_iff_of_readable (housed : fs.IsHoused)
    (readable : fs.find? directory ≠ some (.directory true)) :
    fs.IsBarred directory ↔ ∃ name ∈ fs.children directory, fs.IsBarred (directory ++ [name]) := by
  constructor
  · rintro ⟨place, above, found⟩
    rcases prefix_iff_eq_or_isBelow.mp above with rfl | below
    · exact (readable found).elim
    · have present : place ≠ [] := by
        rintro rfl
        simp [isBelow] at below
      obtain ⟨name, member, within⟩ :=
        (isBelow_iff_of_mem housed (mem_entries_of_find? present found)).mp below
      exact ⟨name, member, place, within, found⟩
  · rintro ⟨name, -, place, within, found⟩
    exact ⟨place, (List.prefix_append _ _).trans within, found⟩

/-- What is below a directory is removed if enough levels are entered, unless a directory is
barred. -/
theorem empties_empty (housed : fs.IsHoused) (room : fs.hasDirectory directory = true)
    (enough : ∀ entry ∈ fs.entries, entry.1.length < directory.length + fuel) (deep : 0 < fuel) :
    fs.Empties directory (empty fuel fs directory) := by
  induction fuel generalizing fs directory with
  | zero => omega
  | succ fuel induction =>
      by_cases readable : fs.find? directory = some (.directory true)
      · rw [empty]
        simp only [readable]
        exact .stopped ⟨directory, List.prefix_rfl, readable⟩ (.refl housed _)
      · have goesOn : empty (fuel + 1) fs directory =
            removeEach (empty fuel) directory fs (fs.children directory) := by
          rw [empty]
          split
          · contradiction
          · rfl
        have each : ∀ (before : FileSystem) (name : String), before.IsHoused →
            (∀ entry ∈ before.entries, entry ∈ fs.entries) →
            before.hasDirectory (directory ++ [name]) = true →
            before.Empties (directory ++ [name]) (empty fuel before (directory ++ [name])) := by
          intro before name houses fewer inside
          obtain ⟨locked, found⟩ := hasDirectory_iff.mp inside
          have limit : ∀ entry ∈ before.entries,
              entry.1.length < (directory ++ [name]).length + fuel := by
            intro entry member
            have := enough entry (fewer entry member)
            simp only [List.length_append, List.length_singleton]
            omega
          have here : (directory ++ [name]).length < (directory ++ [name]).length + fuel :=
            limit _ (mem_entries_of_find? (by simp) found)
          exact induction houses inside limit (by omega)
        rw [goesOn]
        rcases removeEach_cases housed readable each with ⟨never, result⟩ |
          ⟨stops, after, stop, result, remains⟩
        · rw [result, pruneEach_children housed]
          refine .emptied fun barred => ?_
          obtain ⟨name, member, stops⟩ := (isBarred_iff_of_readable housed readable).mp barred
          exact never name member stops
        · rw [result]
          exact .stopped ((isBarred_iff_of_readable housed readable).mpr stops) remains

/-- The depth of a file system suffices. -/
theorem empties_empty_depth (housed : fs.IsHoused) (room : fs.hasDirectory directory = true) :
    fs.Empties directory (empty (fs.depth + 1) fs directory) := by
  refine empties_empty housed room (fun entry member => ?_) (Nat.succ_pos _)
  have := @length_le_depth fs entry.1 entry.2 member
  omega

end Baseline.FileSystem
