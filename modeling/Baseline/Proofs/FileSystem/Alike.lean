import Baseline.Proofs.FileSystem.Plain

/-!
# File systems that look alike

Two file systems look alike if they differ in the order of their entries and in their files at most.
Paths lead to the same addresses in both, and walks meet the same files.
-/

namespace Baseline

/-- An entry without what can be read from a file. -/
def Entry.closed : Entry → Entry
  | .file _ _ => .file [] false
  | .directory locked => .directory locked
  | .link target => .link target

namespace FileSystem

variable {fs other : FileSystem} {last : Bool} {links fuel : Nat} {here address : Address}
  {names : List String} {directory path : Path} {entry : Entry}

/-- The entries without what can be read from files. -/
def closedEntries (fs : FileSystem) : List (Address × Entry) :=
  fs.entries.map fun (address, entry) => (address, entry.closed)

/-- At every address stands one entry at most, and the entries are those of the other file system, in
any order and whatever their files hold. The current directory and the homes are the same. -/
structure Alike (fs other : FileSystem) : Prop where
  distinct : (fs.entries.map Prod.fst).Nodup
  entries : fs.closedEntries.Perm other.closedEntries
  current : other.current = fs.current
  homes : other.homes = fs.homes

/-! ## Entries -/

/-- Where nothing stands anywhere twice, what is stored at an address is found there. -/
theorem find?_eq_some_iff (distinct : (fs.entries.map Prod.fst).Nodup) (present : address ≠ []) :
    fs.find? address = some entry ↔ (address, entry) ∈ fs.entries := by
  constructor
  · exact mem_entries_of_find? present
  · intro stored
    cases found : fs.find? address with
    | none => exact (find?_ne_none_of_mem stored found).elim
    | some first =>
        have same := List.inj_on_of_nodup_map distinct stored (mem_entries_of_find? present found) rfl
        rw [(Prod.mk.inj same).2]

theorem map_fst_closedEntries (fs : FileSystem) :
    fs.closedEntries.map Prod.fst = fs.entries.map Prod.fst := by
  rw [closedEntries, List.map_map]
  rfl

theorem Alike.addresses (alike : fs.Alike other) :
    (fs.entries.map Prod.fst).Perm (other.entries.map Prod.fst) := by
  rw [← map_fst_closedEntries, ← map_fst_closedEntries]
  exact alike.entries.map _

theorem Alike.symm (alike : fs.Alike other) : other.Alike fs :=
  ⟨alike.addresses.nodup alike.distinct, alike.entries.symm, alike.current.symm,
    alike.homes.symm⟩

/-- At every address the same stands in both, up to what files hold. -/
theorem find?_of_alike (alike : fs.Alike other) (address : Address) :
    (other.find? address).map Entry.closed = (fs.find? address).map Entry.closed := by
  have stored {fs : FileSystem} (distinct : (fs.entries.map Prod.fst).Nodup) (present : address ≠ [])
      (closed : Entry) : (fs.find? address).map Entry.closed = some closed ↔
        (address, closed) ∈ fs.closedEntries := by
    simp only [closedEntries, Option.map_eq_some_iff, find?_eq_some_iff distinct present,
      List.mem_map, Prod.exists, Prod.mk.injEq]
    constructor
    · rintro ⟨entry, member, rfl⟩
      exact ⟨address, entry, member, rfl, rfl⟩
    · rintro ⟨_, entry, member, rfl, rfl⟩
      exact ⟨entry, member, rfl⟩
  rcases eq_or_ne address [] with rfl | present
  · rfl
  · ext closed
    rw [stored alike.symm.distinct present, stored alike.distinct present, alike.entries.mem_iff]

theorem names_of_alike (alike : fs.Alike other) (address : Address) :
    other.names address = fs.names address := by
  rw [names_eq, names_eq]
  exact Text.sorted_eq_of_perm (alike.addresses.symm.filterMap _)

theorem longestTarget_of_alike (alike : fs.Alike other) : other.longestTarget = fs.longestTarget := by
  have closed (fs : FileSystem) :
      FileSystem.longestTarget { fs with entries := fs.closedEntries } = fs.longestTarget := by
    rw [FileSystem.longestTarget, closedEntries, List.foldl_map, FileSystem.longestTarget]
    congr 1
    funext longest entry
    obtain ⟨address, _ | _ | _⟩ := entry <;> rfl
  rw [← closed other, ← closed fs, FileSystem.longestTarget, FileSystem.longestTarget]
  -- The order does not matter to a greatest length.
  refine (alike.entries.foldl_eq' ?_ 0).symm
  rintro ⟨_, first⟩ - ⟨_, second⟩ - longest
  cases first <;> cases second <;> simp only
  exact Nat.max_right_comm _ _ _

theorem stepLimit_of_alike (alike : fs.Alike other) (path : Path) :
    other.stepLimit path = fs.stepLimit path := by
  rw [stepLimit_eq, stepLimit_eq, longestTarget_of_alike alike]

theorem length_of_alike (alike : fs.Alike other) : other.entries.length = fs.entries.length := by
  simpa [closedEntries] using alike.entries.length_eq.symm

/-- At every address the same stands in both, or a file in both. -/
theorem Alike.find?_cases (alike : fs.Alike other) (address : Address) :
    other.find? address = fs.find? address ∨
      ∃ bytes locked more lock, fs.find? address = some (.file bytes locked) ∧
        other.find? address = some (.file more lock) := by
  have closed := find?_of_alike alike address
  rcases found : fs.find? address with _ | ⟨bytes, locked⟩ | locked | target <;>
    rcases there : other.find? address with _ | ⟨more, lock⟩ | lock | goal <;>
    simp_all [Entry.closed]

/-! ## Paths -/

/-- Names lead to the same place in both, or to a file at the same address. -/
theorem Alike.follow_cases (alike : fs.Alike other) :
    other.follow last links fuel here names = fs.follow last links fuel here names ∨
      ∃ address bytes locked more lock,
        fs.follow last links fuel here names = .ok ⟨address, some (.file bytes locked)⟩ ∧
          other.follow last links fuel here names = .ok ⟨address, some (.file more lock)⟩ := by
  induction fuel generalizing links here names with
  | zero => exact .inl rfl
  | succ fuel induction =>
      cases names with
      | nil =>
          simp only [follow]
          rcases alike.find?_cases here with same | ⟨bytes, locked, more, lock, found, there⟩
          · exact .inl (by rw [same])
          · exact .inr ⟨here, bytes, locked, more, lock, by rw [found], by rw [there]⟩
      | cons name rest =>
          by_cases up : name = ".."
          · rw [up, follow, follow]
            exact induction
          by_cases stay : name = "."
          · rw [stay, follow, follow]
            exact induction
          rw [follow.eq_5 _ _ _ _ _ _ _ up stay, follow.eq_5 _ _ _ _ _ _ _ up stay]
          split
          · exact .inl rfl
          rcases alike.find?_cases (here ++ [name]) with
            same | ⟨bytes, locked, more, lock, found, there⟩
          · simp only [same]
            -- Only a directory or a link leads further.
            split
            · exact .inl rfl
            · split
              · exact .inl rfl
              · exact induction
            · exact .inl rfl
            · split
              · exact .inl rfl
              split
              · exact .inl rfl
              cases links with
              | zero => exact .inl rfl
              | succ links => exact induction
          · simp only [found, there]
            split
            · exact .inr ⟨_, _, _, _, _, rfl, rfl⟩
            · exact .inl rfl

theorem Alike.locate_cases (alike : fs.Alike other) (last : Bool) (path : Path) :
    other.locate last path = fs.locate last path ∨
      ∃ address bytes locked more lock,
        fs.locate last path = .ok ⟨address, some (.file bytes locked)⟩ ∧
          other.locate last path = .ok ⟨address, some (.file more lock)⟩ := by
  rw [locate, locate, startOf_of_current alike.current, stepLimit_of_alike alike]
  exact alike.follow_cases

theorem pathExists_of_alike (alike : fs.Alike other) (path : Path) :
    other.pathExists path = fs.pathExists path := by
  unfold pathExists target?
  rcases alike.locate_cases true path with same | ⟨_, _, _, _, _, located, there⟩
  · rw [same]
  · rw [located, there]
    split <;> rfl

theorem isDirectory_of_alike (alike : fs.Alike other) (path : Path) :
    other.isDirectory path = fs.isDirectory path := by
  unfold isDirectory target?
  rcases alike.locate_cases true path with same | ⟨_, _, _, _, _, located, there⟩
  · rw [same]
  · rw [located, there]
    split <;> rfl

theorem isFile_of_alike (alike : fs.Alike other) (path : Path) :
    other.isFile path = fs.isFile path := by
  unfold isFile target?
  rcases alike.locate_cases true path with same | ⟨_, _, _, _, _, located, there⟩
  · rw [same]
  · rw [located, there]
    split <;> rfl

theorem isLink_of_alike (alike : fs.Alike other) (path : Path) :
    other.isLink path = fs.isLink path := by
  unfold isLink
  rcases alike.locate_cases false path with same | ⟨_, _, _, _, _, located, there⟩
  · rw [same]
  · rw [located, there]

theorem list_of_alike (alike : fs.Alike other) (path : Path) : other.list path = fs.list path := by
  unfold list
  rcases alike.locate_cases true path with same | ⟨_, _, _, _, _, located, there⟩
  · simp only [same, names_of_alike alike]
  · rw [located, there]

/-! ## Walks -/

theorem leadsToDirectory_of_alike (alike : fs.Alike other) (path : Path) :
    other.leadsToDirectory path = fs.leadsToDirectory path := by
  rw [leadsToDirectory, leadsToDirectory, isDirectory_of_alike alike]

theorem leadsToFile_of_alike (alike : fs.Alike other) (path : Path) :
    other.leadsToFile path = fs.leadsToFile path := by
  rw [leadsToFile, leadsToFile, isFile_of_alike alike]

theorem linkError?_of_alike (alike : fs.Alike other) (path : Path) :
    other.linkError? path = fs.linkError? path := by
  rw [linkError?, linkError?, isLink_of_alike alike, isFile_of_alike alike]

theorem walkAlong_of_alike (alike : fs.Alike other) (paths : List Path) :
    other.walkAlong paths = fs.walkAlong paths := by
  induction paths with
  | nil => rfl
  | cons path paths induction =>
      rw [walkAlong, walkAlong, linkError?_of_alike alike, leadsToFile_of_alike alike, induction]

theorem walkFrom_of_alike (alike : fs.Alike other) (directory : Path) :
    other.walkFrom fuel directory = fs.walkFrom fuel directory := by
  induction fuel generalizing directory with
  | zero => rfl
  | succ fuel induction =>
      simp only [walkFrom, list_of_alike alike, walkAlong_of_alike alike,
        leadsToDirectory_of_alike alike, isLink_of_alike alike, induction]

/-- A walk meets the same files, and the same stops it if anything does. -/
theorem walk_of_alike (alike : fs.Alike other) (directory : Path) :
    other.walk directory = fs.walk directory := by
  rw [walk, walk, length_of_alike alike, walkFrom_of_alike alike]

end FileSystem

end Baseline
