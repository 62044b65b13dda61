import Baseline.Proofs.FileSystem.Emptying
import Baseline.Proofs.FileSystem.Resolution

/-!
# Making and removing directories and files

Making the directories of a path only adds directories, each where a path above leads. If the path
led to a directory that has just been removed, that directory alone is made again. Writing a file
changes one address, and removing a tree those at and below one.
-/

namespace Baseline

/-- A path is another one or lies above it. -/
structure Path.IsAbove (above path : Path) : Prop where
  root : above.root = path.root
  parts : above.parts <+: path.parts

theorem Path.IsAbove.refl (path : Path) : path.IsAbove path := ⟨rfl, List.prefix_rfl⟩

theorem Path.IsAbove.of_parent {above path : Path} (higher : above.IsAbove path.parent) :
    above.IsAbove path :=
  ⟨higher.root, higher.parts.trans (List.dropLast_prefix _)⟩

theorem Path.isAbsolute_below {base : Path} (absolute : base.isAbsolute = true) (s : String) :
    (base.below s).isAbsolute = true := by
  rw [Path.below, Path.join]
  split
  · assumption
  · exact absolute

namespace FileSystem

variable {fs after upper : FileSystem} {last : Bool} {links fuel : Nat}
  {here address other : Address} {names : List String} {path prior : Path} {bytes : List UInt8}

/-! ## Where paths start -/

theorem startOf_of_isAbove (higher : prior.IsAbove path) : fs.startOf prior = fs.startOf path := by
  rw [startOf, startOf, Path.isAbsolute, Path.isAbsolute, higher.root]

theorem hasDirectory_startOf_below (begun : fs.hasDirectory (fs.startOf path) = true) (s : String) :
    fs.hasDirectory (fs.startOf (path.below s)) = true := by
  rw [Path.below, Path.join]
  split
  · exact hasDirectory_startOf_of_isAbsolute ‹_›
  · exact begun

/-! ## Where entries are put -/

/-- A way from a directory leads to a directory or to a name in one. -/
theorem Leads.reaches (leads : fs.Leads last links here names address) (housed : fs.IsHoused)
    (room : fs.hasDirectory here = true) :
    fs.hasDirectory address = true ∨ ∃ parent name, address = parent ++ [name] ∧
      fs.hasDirectory parent = true ∧ isName name = true := by
  induction leads with
  | arrive => exact .inl room
  | up _ induction => exact induction (housed.dropLast room)
  | stay _ induction => exact induction room
  | enter _ _ entered _ induction => exact induction entered
  | stop named => exact .inr ⟨_, _, rfl, room, named⟩
  | jump _ _ _ _ _ _ induction => exact induction (hasDirectory_targetStart room _)

/-- A path that starts at a directory leads to a place in one, where an entry may be put unless a
directory stands there. -/
theorem LeadsTo.put (leads : fs.LeadsTo last path address) (housed : fs.IsHoused)
    (begun : fs.hasDirectory (fs.startOf path) = true) (free : fs.hasDirectory address = false)
    (entry : Entry) : address ≠ [] ∧ (fs.put address entry).IsHoused := by
  rcases Leads.reaches leads housed begun with room | ⟨parent, name, rfl, room, -⟩
  · rw [room] at free
    contradiction
  · exact ⟨by simp, housed.put room free entry⟩

/-- The paths above one that leads to a directory lead to directories. -/
theorem LeadsTo.above (leads : fs.LeadsTo true path address) (housed : fs.IsHoused)
    (begun : fs.hasDirectory (fs.startOf path) = true) (room : fs.hasDirectory address = true)
    (higher : prior.IsAbove path) :
    ∃ middle, fs.LeadsTo true prior middle ∧ fs.hasDirectory middle = true := by
  rw [← startOf_of_isAbove higher] at begun
  obtain ⟨root, rest, parts⟩ := higher
  have whole : path = ⟨prior.root, prior.parts ++ rest⟩ := by
    rw [root, parts]
  rw [whole] at leads
  rcases eq_or_ne rest [] with rfl | rest_ne
  · rw [List.append_nil] at leads
    exact ⟨address, leads, room⟩
  · obtain ⟨middle, -, first, inside, -⟩ := leads.split housed begun rest_ne
    exact ⟨middle, first, inside⟩

/-! ## Making directories -/

theorem makeDirectory_eq_ok_iff :
    fs.makeDirectory path = .ok after ↔
      ∃ address, fs.LeadsTo false path address ∧ fs.find? address = none ∧
        after = fs.put address (.directory false) := by
  rw [makeDirectory]
  constructor
  · intro made
    split at made
    · contradiction
    · rename_i address located
      obtain ⟨leads, absent⟩ := locate_eq_ok_iff.mp located
      exact ⟨address, leads, absent.symm, (Except.ok.inj made).symm⟩
    · contradiction
  · rintro ⟨address, leads, absent, rfl⟩
    simp [leads.locate, absent]

/-- Directories are made one after the other, each at a path or at one above it. -/
inductive Makes (path : Path) : FileSystem → FileSystem → Prop where
  | nothing {fs : FileSystem} : Makes path fs fs
  | another {fs before after : FileSystem} {above : Path} :
      Makes path fs before → above.IsAbove path → before.makeDirectory above = .ok after →
      Makes path fs after

theorem Makes.of_parent (makes : Makes path.parent fs after) : Makes path fs after := by
  induction makes with
  | nothing => exact .nothing
  | another _ higher made induction => exact .another induction higher.of_parent made

/-- Making the directories of a path makes directories at it and above it. If nothing stops that,
the last of them is that of the path, or the path led to a directory then. -/
theorem makes_makeDirectories (fs : FileSystem) (fuel : Nat) (path : Path) :
    Makes path fs (fs.makeDirectories fuel path).1 ∧
      ((fs.makeDirectories fuel path).2 = none →
        (∃ before, Makes path fs before ∧
          before.makeDirectory path = .ok (fs.makeDirectories fuel path).1) ∨
        (fs.makeDirectories fuel path).1.isDirectory path = .ok true) := by
  fun_induction makeDirectories fs fuel path with
  | case1 => exact ⟨.nothing, by simp⟩
  | case2 _ _ _ made =>
      exact ⟨.another .nothing (.refl _) made, fun _ => .inl ⟨_, .nothing, made⟩⟩
  | case3 => exact ⟨.nothing, by simp⟩
  | case4 _ _ _ _ _ _ stopped induction =>
      rw [stopped] at induction
      exact ⟨induction.1.of_parent, by simp⟩
  | case5 _ _ _ _ _ passed _ made induction =>
      rw [passed] at induction
      have parents := induction.1.of_parent
      exact ⟨.another parents (.refl _) made, fun _ => .inl ⟨_, parents, made⟩⟩
  | case6 _ _ tolerant _ _ _ passed _ _ induction =>
      rw [passed] at induction
      have parents := induction.1.of_parent
      simp only [tolerant]
      split
      · rename_i there
        exact ⟨parents, fun _ => .inr there⟩
      · exact ⟨parents, by simp⟩
  | case7 _ _ tolerant =>
      simp only [tolerant]
      split
      · rename_i there
        exact ⟨.nothing, fun _ => .inr there⟩
      · exact ⟨.nothing, by simp⟩

/-- What stands in a file system after directories were made. -/
structure Grows (fs after : FileSystem) : Prop where
  housed : after.IsHoused
  current : after.current = fs.current
  adds : fs.AddsDirectories after

/-- A directory that is made is a new one, and its path leads there. -/
theorem grows_of_makeDirectory (housed : fs.IsHoused)
    (begun : fs.hasDirectory (fs.startOf path) = true) (made : fs.makeDirectory path = .ok after) :
    fs.Grows after ∧ ∃ address, fs.LeadsTo false path address ∧ fs.find? address = none ∧
      after = fs.put address (.directory false) ∧ after.LeadsTo true path address ∧
      after.hasDirectory address = true := by
  obtain ⟨address, leads, absent, rfl⟩ := makeDirectory_eq_ok_iff.mp made
  obtain ⟨present, houses⟩ :=
    leads.put housed begun (hasDirectory_of_absent absent) (.directory false)
  have adds := addsDirectories_put absent
  have room : (fs.put address (.directory false)).hasDirectory address = true :=
    hasDirectory_iff.mpr ⟨_, find?_put_self present _⟩
  have further : (fs.put address (.directory false)).LeadsTo false path address :=
    leads.embed adds.embeds rfl (.inl rfl)
  exact ⟨⟨houses, rfl, adds⟩, address, leads, absent, rfl, further.followed_of_hasDirectory room,
    room⟩

/-- A path above one that starts at a directory starts at one after directories were made. -/
theorem Grows.begun (grows : fs.Grows after) (begun : fs.hasDirectory (fs.startOf path) = true)
    (higher : prior.IsAbove path) : after.hasDirectory (after.startOf prior) = true := by
  rw [startOf_of_isAbove higher]
  exact hasDirectory_startOf_of_embeds grows.adds.embeds grows.current begun

theorem Makes.grows (makes : Makes path fs after) (housed : fs.IsHoused)
    (begun : fs.hasDirectory (fs.startOf path) = true) : fs.Grows after := by
  induction makes with
  | nothing => exact ⟨housed, rfl, .refl fs⟩
  | another _ higher made induction =>
      obtain ⟨⟨housesNext, currentNext, addsNext⟩, -⟩ :=
        grows_of_makeDirectory induction.housed (induction.begun begun higher) made
      obtain ⟨-, current, adds⟩ := induction
      exact ⟨housesNext, currentNext.trans current, adds.trans addsNext⟩

/-- The directories that are made can be read. -/
theorem Makes.find? (makes : Makes path fs after) (address : Address) :
    after.find? address = fs.find? address ∨ after.find? address = some (.directory false) := by
  induction makes with
  | nothing => exact .inl rfl
  | another _ _ made induction =>
      obtain ⟨place, -, absent, rfl⟩ := makeDirectory_eq_ok_iff.mp made
      rcases eq_or_ne address place with rfl | differs
      · refine .inr (find?_put_self ?_ _)
        rintro rfl
        cases absent
      · rw [find?_put_of_ne _ differs]
        exact induction

/-- Each directory that was made stands where the path or one above it leads. -/
theorem Makes.exists_isAbove (makes : Makes path fs after) (housed : fs.IsHoused)
    (begun : fs.hasDirectory (fs.startOf path) = true) (absent : fs.find? address = none)
    (room : after.hasDirectory address = true) :
    ∃ prior, prior.IsAbove path ∧ after.LeadsTo true prior address := by
  induction makes with
  | nothing =>
      rw [hasDirectory_of_absent absent] at room
      contradiction
  | @another before after prior first higher made induction =>
      have grows := first.grows housed begun
      obtain ⟨⟨-, current, adds⟩, place, -, -, rfl, leads, -⟩ :=
        grows_of_makeDirectory grows.housed (grows.begun begun higher) made
      rcases eq_or_ne address place with rfl | differs
      · exact ⟨prior, higher, leads⟩
      · have earlier : before.hasDirectory address = true := by
          rw [hasDirectory, find?_put_of_ne _ differs] at room
          exact room
        obtain ⟨other, above, leadsBefore⟩ := induction earlier
        exact ⟨other, above, leadsBefore.embed_of_hasDirectory adds.embeds current earlier⟩

/-- Each directory that was made has a name. -/
theorem Makes.isName (makes : Makes path fs after) (housed : fs.IsHoused)
    (begun : fs.hasDirectory (fs.startOf path) = true) {name : String}
    (absent : fs.find? (address ++ [name]) = none)
    (room : after.hasDirectory (address ++ [name]) = true) : isName name = true := by
  induction makes with
  | nothing =>
      rw [hasDirectory_of_absent absent] at room
      contradiction
  | another first higher made induction =>
      have grows := first.grows housed begun
      obtain ⟨place, leads, free, rfl⟩ := makeDirectory_eq_ok_iff.mp made
      rcases eq_or_ne (address ++ [name]) place with rfl | differs
      · rcases Leads.reaches leads grows.housed (grows.begun begun higher) with stands |
          ⟨parent, other, same, -, named⟩
        · rw [hasDirectory_of_absent free] at stands
          contradiction
        · obtain ⟨-, rfl⟩ := List.append_inj' same rfl |>.imp id List.singleton_inj.mp
          exact named
      · apply induction
        rw [hasDirectory, find?_put_of_ne _ differs] at room
        exact room

/-- Where a path leads to a directory of a file system, making its directories elsewhere makes only
directories of that file system. -/
theorem Makes.embeds (makes : Makes path fs after) (housed : fs.IsHoused)
    (begun : fs.hasDirectory (fs.startOf path) = true) (embeds : fs.Embeds upper)
    (upperHoused : upper.IsHoused) (same : upper.current = fs.current)
    (links : ∀ address target, upper.find? address = some (.link target) →
      fs.find? address ≠ none)
    (leads : upper.LeadsTo true path address) (room : upper.hasDirectory address = true) :
    after.Embeds upper := by
  induction makes with
  | nothing => exact embeds
  | @another before after prior first higher made induction =>
      obtain ⟨-, current, adds⟩ := first.grows housed begun
      obtain ⟨place, leadsHere, absent, rfl⟩ := makeDirectory_eq_ok_iff.mp made
      obtain ⟨middle, leadsMiddle, inside⟩ := leads.above upperHoused
        (hasDirectory_startOf_of_embeds embeds same begun) room higher
      have unlinked : ∀ target, upper.find? place ≠ some (.link target) := by
        intro target link
        have stood := links place target link
        rcases adds place with kept | ⟨gone, -⟩
        · rw [absent] at kept
          exact stood kept.symm
        · exact stood gone
      have leadsUpper : upper.LeadsTo true prior place := by
        refine Leads.followed ?_ unlinked
        exact leadsHere.embed induction (same.trans current.symm) (.inl rfl)
      obtain rfl := leadsUpper.unique leadsMiddle
      intro other entry found
      rcases eq_or_ne other place with rfl | differs
      · obtain ⟨locked, there⟩ := hasDirectory_iff.mp inside
        have present : other ≠ [] := by
          rintro rfl
          simp at absent
        rw [find?_put_self present] at found
        cases found
        simp [there, Entry.bare]
      · rw [find?_put_of_ne _ differs] at found
        exact induction other entry found

theorem leadsTo_of_makeDirectories (housed : fs.IsHoused)
    (begun : fs.hasDirectory (fs.startOf path) = true)
    (made : (fs.makeDirectories fuel path).2 = none) :
    ∃ address, (fs.makeDirectories fuel path).1.LeadsTo true path address ∧
      (fs.makeDirectories fuel path).1.hasDirectory address = true := by
  rcases (makes_makeDirectories fs fuel path).2 made with ⟨before, makes, last⟩ | there
  · have grows := makes.grows housed begun
    obtain ⟨-, address, -, -, -, leads, room⟩ :=
      grows_of_makeDirectory grows.housed (grows.begun begun (.refl path)) last
    exact ⟨address, leads, room⟩
  · exact (isDirectory_eq_ok_true_iff.mp there).2

/-! ## Removing trees -/

/-- The directory that a path names is emptied, and removed if the path still leads there. If a
directory in it cannot be read, a part of it is left. -/
theorem removeTree_of_hasDirectory (housed : fs.IsHoused) (leads : fs.LeadsTo false path address)
    (room : fs.hasDirectory address = true) :
    fs.IsBarred address ∧ (fs.removeTree path).2 ≠ none ∧
        fs.Remains address (fs.removeTree path).1 ∨
      ¬fs.IsBarred address ∧
        ((fs.removeTree path).2 ≠ none ∧ (fs.removeTree path).1 = fs.eraseBelow address ∨
          (fs.removeTree path).2 = none ∧ (fs.eraseBelow address).LeadsTo false path address ∧
            (fs.removeTree path).1 = (fs.eraseBelow address).erase address) := by
  obtain ⟨locked, found⟩ := hasDirectory_iff.mp room
  have empties := empties_empty_depth housed room
  rw [removeTree]
  simp only [leads.locate, found]
  generalize empty (fs.depth + 1) fs address = result at empties
  cases empties with
  | stopped barred remains => exact .inl ⟨barred, by simp, remains⟩
  | emptied free =>
      refine .inr ⟨free, ?_⟩
      simp only
      split
      · exact .inl ⟨by simp, rfl⟩
      · rename_i place again
        obtain ⟨leadsAgain, -⟩ := locate_eq_ok_iff.mp again
        have same : place.address = address :=
          (leadsAgain.embed (embeds_eraseBelow fs address) rfl (.inl rfl)).unique leads
        rw [same] at leadsAgain
        split
        · exact .inl ⟨by simp, rfl⟩
        · exact .inr ⟨rfl, leadsAgain, rfl⟩

/-- Where a path names no directory nothing is removed. -/
theorem removeTree_of_not_hasDirectory
    (outside : ∀ address, fs.LeadsTo false path address → fs.hasDirectory address = false) :
    (fs.removeTree path).2 ≠ none ∧ (fs.removeTree path).1 = fs := by
  rw [removeTree]
  split
  · simp
  · simp
  · rename_i address locked located
    obtain ⟨leads, found⟩ := locate_eq_ok_iff.mp located
    have room : fs.hasDirectory address = true := hasDirectory_iff.mpr ⟨locked, found.symm⟩
    rw [outside address leads] at room
    contradiction
  · simp
  · split <;> simp

/-- Making the directories of a path again restores the directory to which it led, and no other,
unless the path started in that directory. -/
theorem find?_remade (housed : fs.IsHoused)
    (begun : (fs.erase address).hasDirectory ((fs.erase address).startOf path) = true)
    (leads : fs.LeadsTo false path address) (room : fs.hasDirectory address = true)
    (empty : ∀ name, fs.find? (address ++ [name]) = none) {after : FileSystem}
    (makes : Makes path (fs.erase address) after) :
    after.IsHoused ∧ after.current = fs.current ∧ after.Embeds fs ∧
      ∀ other, other ≠ address → after.find? other = fs.find? other := by
  have erased {other : Address} (differs : other ≠ address) :
      (fs.erase address).find? other = fs.find? other :=
    find?_erase_of_ne differs
  have embedsErased : (fs.erase address).Embeds fs := by
    intro other entry there
    rw [find?_erase] at there
    split at there
    · contradiction
    · simp [there]
  have links : ∀ other target, fs.find? other = some (.link target) →
      (fs.erase address).find? other ≠ none := by
    intro other target link
    have differs : other ≠ address := by
      rintro rfl
      exact ne_link_of_hasDirectory room target link
    simp [erased differs, link]
  have leadsOn := leads.followed_of_hasDirectory room
  have houses := housed.erase empty
  obtain ⟨housesAfter, current, adds⟩ := makes.grows houses begun
  have embeds := makes.embeds houses begun embedsErased housed rfl links leadsOn room
  refine ⟨housesAfter, current, embeds, ?_⟩
  intro other differs
  rcases adds other with same | ⟨absent, inside⟩
  · exact same.trans (erased differs)
  · obtain ⟨_, there⟩ := hasDirectory_iff.mp (embeds.hasDirectory inside)
    rw [erased differs, there] at absent
    contradiction

/-! ## Writing files -/

theorem write_eq_ok_iff :
    fs.write path bytes = .ok after ↔
      hasNull path = false ∧ ∃ address locked, fs.LeadsTo true path address ∧
        (fs.find? address = none ∧ locked = false ∨
          ∃ old, fs.find? address = some (.file old locked)) ∧
        after = fs.put address (.file bytes locked) := by
  rw [write]
  cases null : hasNull path with
  | true => simp
  | false =>
      simp only [Bool.false_eq_true, if_false, true_and]
      constructor
      · intro written
        split at written
        · contradiction
        · rename_i address located
          obtain ⟨leads, absent⟩ := locate_eq_ok_iff.mp located
          exact ⟨address, false, leads, .inl ⟨absent.symm, rfl⟩, (Except.ok.inj written).symm⟩
        · rename_i address old locked located
          obtain ⟨leads, found⟩ := locate_eq_ok_iff.mp located
          exact ⟨address, locked, leads, .inr ⟨old, found.symm⟩, (Except.ok.inj written).symm⟩
        · contradiction
      · rintro ⟨address, locked, leads, ⟨absent, rfl⟩ | ⟨old, found⟩, rfl⟩
        · simp [leads.locate, absent]
        · simp [leads.locate, found]

/-- A file that is written stands where its path leads, and nothing else is changed. -/
theorem embeds_of_write (housed : fs.IsHoused)
    (begun : fs.hasDirectory (fs.startOf path) = true) (written : fs.write path bytes = .ok after) :
    after.IsHoused ∧ after.current = fs.current ∧ fs.Embeds after ∧
      ∃ address locked, fs.LeadsTo true path address ∧ after.LeadsTo true path address ∧
        (fs.find? address = none ∧ locked = false ∨
          ∃ old, fs.find? address = some (.file old locked)) ∧
        after.find? address = some (.file bytes locked) ∧
        ∀ other, other ≠ address → after.find? other = fs.find? other := by
  obtain ⟨-, address, locked, leads, before, rfl⟩ := write_eq_ok_iff.mp written
  have free : fs.hasDirectory address = false := by
    rcases before with ⟨absent, -⟩ | ⟨old, found⟩
    · exact hasDirectory_of_absent absent
    · exact hasDirectory_of_file found
  obtain ⟨present, houses⟩ := leads.put housed begun free (.file bytes locked)
  have found : (fs.put address (.file bytes locked)).find? address = some (.file bytes locked) :=
    find?_put_self present _
  have embeds : fs.Embeds (fs.put address (.file bytes locked)) := by
    intro other entry there
    rcases eq_or_ne other address with rfl | differs
    · rcases before with ⟨absent, -⟩ | ⟨old, stood⟩
      · cases absent.symm.trans there
      · cases stood.symm.trans there
        simp [found, Entry.bare]
    · simp [find?_put_of_ne _ differs, there]
  refine ⟨houses, rfl, embeds, address, locked, leads, ?_, before, found, ?_⟩
  · refine leads.embed embeds rfl (.inr ?_)
    intro _ target link
    cases found.symm.trans link
  · intro other differs
    exact find?_put_of_ne _ differs

end FileSystem

end Baseline
