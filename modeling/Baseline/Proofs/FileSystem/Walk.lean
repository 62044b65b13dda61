import Baseline.Proofs.FileSystem.Resolution

/-!
# Walks meet every file

A walk that nothing stops meets exactly the files below its directory, those behind links to
directories left out. Each directory that is entered has fewer entries below it than the one before,
so the depth to which a walk goes suffices.
-/

namespace Baseline.FileSystem

variable {fs : FileSystem} {directory path : Path} {address above : Address} {name : String}

/-- A file lies below a directory, with no link to a directory on the way. -/
inductive Under (fs : FileSystem) : Path → Path → Prop where
  | file {directory : Path} {names : List String} {name : String} :
      fs.list directory = .ok names → name ∈ names →
      fs.leadsToFile (directory.child name) = true →
      Under fs directory (directory.child name)
  | within {directory : Path} {names : List String} {name : String} {path : Path} :
      fs.list directory = .ok names → name ∈ names →
      fs.leadsToDirectory (directory.child name) = true →
      fs.isLink (directory.child name) = false →
      Under fs (directory.child name) path → Under fs directory path

theorem Under.leadsToFile (under : fs.Under directory path) : fs.leadsToFile path = true := by
  induction under with
  | file _ _ file => exact file
  | within _ _ _ _ _ induction => exact induction

theorem mem_names_iff :
    name ∈ fs.names address ↔ ∃ entry, (address ++ [name], entry) ∈ fs.entries := by
  rw [names, Text.mem_sorted, mem_children_iff]

theorem mem_names_iff_find? :
    name ∈ fs.names address ↔ fs.find? (address ++ [name]) ≠ none := by
  rw [mem_names_iff]
  constructor
  · rintro ⟨entry, stored⟩
    exact find?_ne_none_of_mem stored
  · intro found
    obtain ⟨entry, found⟩ := Option.ne_none_iff_exists'.mp found
    exact ⟨entry, mem_entries_of_find? (by simp) found⟩

/-- A subdirectory that is walked through stands in its directory under its name. -/
theorem LeadsTo.subdirectory (tree : fs.IsTree) (leads : fs.LeadsTo true directory address)
    (named : isName name = true) (found : fs.leadsToDirectory (directory.child name) = true)
    (real : fs.isLink (directory.child name) = false) :
    fs.LeadsTo true (directory.child name) (address ++ [name]) ∧
      fs.hasDirectory (address ++ [name]) = true := by
  obtain ⟨-, child, below, room⟩ := leadsToDirectory_iff.mp found
  obtain ⟨middle, fewer, first, inside, second⟩ :=
    below.split tree.isHoused (hasDirectory_startOf tree directory) (by simp)
  obtain rfl := leads.unique first
  obtain ⟨short, same | ⟨-, target, link⟩⟩ := second.singleton_cases named
  · subst same
    exact ⟨below, room⟩
  · have unfollowed : fs.LeadsTo false (directory.child name) (address ++ [name]) :=
      leads.extend inside (by simp) (leads_singleton named short fun _ _ => rfl)
    rw [isLink_iff.mpr ⟨_, target, unfollowed, link⟩] at real
    contradiction

/-- The entries below an address. -/
def entriesBelow (fs : FileSystem) (above : Address) : List (Address × Entry) :=
  fs.entries.filter fun entry => isBelow above entry.1

/-- Fewer entries lie below a subdirectory than below the directory. -/
theorem length_entriesBelow_lt (found : fs.hasDirectory (above ++ [name]) = true) :
    (fs.entriesBelow (above ++ [name])).length < (fs.entriesBelow above).length := by
  obtain ⟨locked, there⟩ := hasDirectory_iff.mp found
  have stored := mem_entries_of_find? (by simp) there
  have narrowed : fs.entriesBelow (above ++ [name]) =
      (fs.entriesBelow above).filter fun entry => isBelow (above ++ [name]) entry.1 := by
    rw [entriesBelow, entriesBelow, List.filter_filter]
    apply List.filter_congr
    rintro ⟨other, entry⟩ -
    cases deeper : isBelow (above ++ [name]) other with
    | false => simp
    | true =>
        obtain ⟨names, -, rfl⟩ := isBelow_iff.mp deeper
        simpa using isBelow_iff.mpr ⟨name :: names, by simp, by simp⟩
  rw [narrowed, List.length_filter_lt_length_iff_exists]
  refine ⟨(above ++ [name], .directory locked), ?_, ?_⟩
  · rw [entriesBelow, List.mem_filter]
    exact ⟨stored, isBelow_iff.mpr ⟨[name], by simp, rfl⟩⟩
  · simp [not_isBelow_self]

/-! ## Walks one after the other -/

theorem Walk.append_of_unstopped {first second : Walk}
    (unstopped : (first.append second).stop = none) :
    first.stop = none ∧ second.stop = none ∧
      (first.append second).files = first.files ++ second.files := by
  rw [Walk.append] at unstopped ⊢
  cases stopped : first.stop with
  | some stop =>
      simp only [stopped] at unstopped
      contradiction
  | none =>
      simp only [stopped] at unstopped
      exact ⟨rfl, unstopped, rfl⟩

/-- A walk along entries whose links can all be followed meets the files among them. -/
theorem walkAlong_of_followed {paths : List Path}
    (followed : ∀ path ∈ paths, fs.linkError? path = none) :
    fs.walkAlong paths = .ofFiles (paths.filter fs.leadsToFile) := by
  induction paths with
  | nil => rfl
  | cons path paths induction =>
      obtain ⟨here, others⟩ := List.forall_mem_cons.mp followed
      rw [walkAlong, here, induction others, List.filter_cons]
      cases fs.leadsToFile path <;> rfl

/-- A walk along entries is stopped only by a link that cannot be followed. -/
theorem linkError?_of_unstopped {paths : List Path}
    (unstopped : (fs.walkAlong paths).stop = none) :
    ∀ path ∈ paths, fs.linkError? path = none := by
  induction paths with
  | nil => simp
  | cons path paths induction =>
      rw [walkAlong] at unstopped
      cases broken : fs.linkError? path with
      | some e => simp [broken] at unstopped
      | none =>
          simp only [broken] at unstopped
          exact List.forall_mem_cons.mpr
            ⟨broken, induction (Walk.append_of_unstopped unstopped).2.1⟩

/-- Walks that are not stopped meet what each of them meets. -/
theorem mem_files_foldl_append (walkOf : Path → Walk) (paths : List Path) (start : Walk)
    (unstopped : (paths.foldl (fun walk path => walk.append (walkOf path)) start).stop = none) :
    start.stop = none ∧ (∀ path ∈ paths, (walkOf path).stop = none) ∧
      ∀ file, file ∈ (paths.foldl (fun walk path => walk.append (walkOf path)) start).files ↔
        file ∈ start.files ∨ ∃ path ∈ paths, file ∈ (walkOf path).files := by
  induction paths generalizing start with
  | nil => exact ⟨unstopped, by simp, by simp⟩
  | cons path paths induction =>
      rw [List.foldl_cons] at unstopped ⊢
      obtain ⟨begun, others, met⟩ := induction _ unstopped
      obtain ⟨first, second, files⟩ := Walk.append_of_unstopped begun
      refine ⟨first, ?_, ?_⟩
      · intro other member
        rcases List.mem_cons.mp member with rfl | member
        · exact second
        · exact others other member
      · intro file
        rw [met, files, List.mem_append]
        simp [or_assoc]

/-! ## Walks meet every file -/

theorem mem_files_walkFrom_iff (tree : fs.IsTree) {fuel : Nat}
    (leads : fs.LeadsTo true directory address)
    (enough : (fs.entriesBelow address).length < fuel)
    (unstopped : (fs.walkFrom fuel directory).stop = none) :
    path ∈ (fs.walkFrom fuel directory).files ↔ fs.Under directory path := by
  induction fuel generalizing directory address with
  | zero => omega
  | succ fuel induction =>
      rw [walkFrom] at unstopped ⊢
      cases listed : fs.list directory with
      | error fault => simp [listed] at unstopped
      | ok names =>
          simp only [listed] at unstopped ⊢
          obtain ⟨along, walks, met⟩ := mem_files_foldl_append _ _ _ unstopped
          obtain ⟨same, leadsSame, -, rfl⟩ := list_eq_ok_iff.mp listed
          obtain rfl := leads.unique leadsSame
          have deeper : ∀ name ∈ fs.names address,
              fs.leadsToDirectory (directory.child name) = true →
              fs.isLink (directory.child name) = false →
              (path ∈ (fs.walkFrom fuel (directory.child name)).files ↔
                fs.Under (directory.child name) path) := by
            intro name member found real
            obtain ⟨entry, stored⟩ := mem_names_iff.mp member
            have named : isName name = true := by simpa using tree.named _ stored
            obtain ⟨below, room⟩ := leads.subdirectory tree named found real
            have fewer := length_entriesBelow_lt room
            refine induction below (by omega) (walks _ ?_)
            exact List.mem_filter.mpr ⟨List.mem_map_of_mem member, by simp [found, real]⟩
          rw [met, walkAlong_of_followed (linkError?_of_unstopped along)]
          simp only [Walk.ofFiles, List.mem_filter, List.mem_map]
          constructor
          · rintro (⟨⟨name, member, rfl⟩, file⟩ | ⟨_, ⟨⟨name, member, rfl⟩, entered⟩, inside⟩)
            · exact .file listed member file
            · obtain ⟨found, real⟩ : fs.leadsToDirectory (directory.child name) = true ∧
                  fs.isLink (directory.child name) = false := by simpa using entered
              exact .within listed member found real ((deeper name member found real).mp inside)
          · intro under
            cases under with
            | file again member file =>
                cases listed.symm.trans again
                exact .inl ⟨⟨_, member, rfl⟩, file⟩
            | @within _ _ name _ again member found real inside =>
                cases listed.symm.trans again
                exact .inr ⟨_, ⟨⟨name, member, rfl⟩, by simp [found, real]⟩,
                  (deeper name member found real).mpr inside⟩

/-- A walk that nothing stops meets exactly the files below its directory. -/
theorem mem_files_walk_iff (tree : fs.IsTree) (unstopped : (fs.walk directory).stop = none) :
    path ∈ (fs.walk directory).files ↔ fs.Under directory path := by
  cases listed : fs.list directory with
  | error fault => simp [walk, walkFrom, listed] at unstopped
  | ok names =>
      obtain ⟨address, leads, -, -⟩ := list_eq_ok_iff.mp listed
      refine mem_files_walkFrom_iff tree leads ?_ unstopped
      exact Nat.lt_succ_of_le (List.length_filter_le _ _)

end Baseline.FileSystem
