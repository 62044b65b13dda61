import Baseline.Proofs.FileSystem.Remaking
import Baseline.Proofs.FileSystem.Settling
import Baseline.Proofs.Results.RoundTrip

/-!
# Results are written twice

Where nothing but results was in the directory of a project, writing results changes nothing else in
a tree without links. Writing them once more changes nothing at all, unless the path led nowhere
before the first time and to a directory with other files since.
-/

namespace Baseline.Results

open FileSystem

variable {fs first after ready : FileSystem} {target : Path} {own address : Address}
  {listing : Listing} {paths : List Path} {name : String} {names : List String} {files : FileLines}

/-! ## What writing leaves alone -/

theorem continues_writeFiles (fs : FileSystem) (target : Path) (listing : Listing)
    (paths : List Path) : fs.Continues (writeFiles target ⟨fs, paths, none⟩ listing).fs := by
  induction listing generalizing fs paths with
  | nil => exact .refl fs
  | cons entry listing induction =>
      obtain ⟨name, files⟩ := entry
      rw [writeFiles]
      cases stored : writeFile fs target name files with
      | error e => exact .refl fs
      | ok next =>
          exact (continues_write (writeFile_eq_ok_iff.mp stored).2).trans (induction next _)

theorem continues_prepared (fs : FileSystem) (target : Path) :
    fs.Continues (prepared fs target) := by
  have cleared : fs.Continues (clear fs target).1 := by
    rw [clear]
    split
    · exact .refl fs
    · exact .refl fs
    · exact continues_removeTree fs target
  exact cleared.trans (makes_makeDirectories _ _ target).1.continues

/-! ## Nothing but results is written -/

/-- A directory holds nothing but files with the names of results. -/
def HoldsResults (fs : FileSystem) (own : Address) : Prop :=
  ∀ names entry, names ≠ [] → fs.find? (own ++ names) = some entry →
    ∃ name bytes locked, names = [name] ∧ isResultName name = true ∧ entry = .file bytes locked

/-- It suffices to look at the entries below the directory. -/
theorem holdsResults_of_forall
    (each : ∀ entry ∈ fs.entries, isBelow own entry.1 = true →
      entry.1.length = own.length + 1 ∧ isResultName (entry.1.getLastD "") = true ∧
        entry.2.bare = .file [] false) : HoldsResults fs own := by
  intro names entry names_ne found
  have stored := mem_entries_of_find? (by simp [names_ne]) found
  obtain ⟨long, named, bare⟩ := each _ stored (isBelow_iff.mpr ⟨names, names_ne, rfl⟩)
  rw [List.length_append, Nat.add_left_cancel_iff, List.length_eq_one_iff] at long
  obtain ⟨name, rfl⟩ := long
  cases entry with
  | file bytes locked => exact ⟨name, bytes, locked, rfl, by simpa using named, rfl⟩
  | directory locked => contradiction
  | link link => contradiction

theorem isResultName_append (name : String) : isResultName (name ++ ".json") = true := by
  rw [isResultName_iff]
  exact ⟨name.toList, by simp⟩

/-- The path of a rule's file ends with the name of a result. -/
theorem exists_filePath_eq (target : Path) (name : String) :
    ∃ (above : Path) (last : String),
      filePath target name = ⟨above.root, above.parts ++ [last]⟩ ∧ isResultName last = true := by
  have spelled : (name ++ ".json").toList = name.toList ++ ['.', 'j', 's', 'o', 'n'] := by simp
  obtain ⟨before, last, parts⟩ :=
    Path.exists_parts_parse spelled (by decide) (show 'j' ∈ _ by simp) (by decide)
  have named : isResultName (String.ofList (last ++ ['.', 'j', 's', 'o', 'n'])) = true := by
    rw [isResultName_iff]
    exact ⟨last, by simp⟩
  rw [filePath, Path.below, Path.join]
  split
  · exact ⟨⟨_, before⟩, _, by rw [← parts], named⟩
  · exact ⟨⟨target.root, target.parts ++ before⟩, _, by rw [parts, List.append_assoc], named⟩

/-- Where the path of a rule's file leads, a file with the name of a result stands or may stand. -/
theorem isResultName_of_leads (housed : fs.IsHoused)
    (begun : fs.hasDirectory (fs.startOf target) = true)
    (unlinked : ∀ address link, fs.find? address ≠ some (.link link))
    (leads : fs.LeadsTo true (filePath target name) address) :
    ∃ above last, address = above ++ [last] ∧ isResultName last = true := by
  have begunFile := hasDirectory_startOf_below begun (name ++ ".json")
  obtain ⟨above, last, spelled, named⟩ := exists_filePath_eq target name
  have same : fs.startOf (filePath target name) = fs.startOf above := by rw [spelled]; rfl
  rw [← filePath, same] at begunFile
  rw [spelled] at leads
  obtain ⟨middle, _, -, -, further⟩ := leads.split housed begunFile (by simp)
  obtain ⟨-, same | ⟨-, link, found⟩⟩ := further.singleton_cases (isName_of_isResultName named)
  · exact ⟨middle, last, same, named⟩
  · exact (unlinked _ link found).elim

/-- Making directories and writing the files of a listing writes nothing but results. -/
theorem settled_of_writes (plain : fs.IsPlain) (makes : Makes target fs ready)
    (writes : Writes ready target listing after) (address : Address) :
    Settled fs after address := by
  have begun := plain.begun target
  have grows := makes.grows plain.housed begun
  have begunAfter : after.hasDirectory (after.startOf target) = true :=
    hasDirectory_startOf_of_embeds writes.embeds writes.current (grows.begun begun (.refl target))
  have filed {place : Address} {entry : String × FileLines} (member : entry ∈ listing)
      (leads : after.LeadsTo true (filePath target entry.1) place) :
      ∃ bytes locked, after.find? place = some (.file bytes locked) := by
    obtain ⟨other, bytes, locked, leadsFile, found⟩ := writes.filed entry member
    obtain rfl := leads.unique leadsFile
    exact ⟨bytes, locked, found⟩
  have unlinked (place : Address) (link : String) : after.find? place ≠ some (.link link) := by
    rcases writes.frame place with same | ⟨entry, member, leads⟩
    · rw [same]
      exact makes.unlinked plain place link
    · obtain ⟨bytes, locked, found⟩ := filed member leads
      simp [found]
  rcases writes.frame address with same | ⟨entry, member, leads⟩
  · rcases grows.adds address with stood | ⟨absent, room⟩
    · exact .same (same.trans stood)
    · rcases makes.find? address with stood | made
      · exact .same (same.trans stood)
      · rcases List.eq_nil_or_concat address with rfl | ⟨above, name, rfl⟩
        · cases absent
        · rw [List.concat_eq_append] at absent room made same ⊢
          exact .made rfl (makes.isName plain.housed begun absent room) absent (same.trans made)
  · obtain ⟨bytes, locked, found⟩ := filed member leads
    obtain ⟨above, last, spelled, named⟩ :=
      isResultName_of_leads writes.housed begunAfter unlinked leads
    refine .result spelled named ?_ ?_
    · intro stored stood
      obtain ⟨other, stands, same⟩ := (grows.adds.embeds.trans writes.embeds).exists_bare stood
      obtain rfl := Option.some.inj (found.symm.trans stands)
      cases stored with
      | file bytes locked => exact ⟨bytes, locked, rfl⟩
      | directory locked => simp [Entry.bare] at same
      | link link => simp [Entry.bare] at same
    · intro stored stands
      obtain rfl := Option.some.inj (found.symm.trans stands)
      exact ⟨bytes, locked, rfl⟩

/-- Replacing a directory of results writes nothing but results. -/
theorem settled_of_replaced (room : fs.hasDirectory own = true) (results : HoldsResults fs own)
    (replaced : Replaced fs own listing after)
    (again : after.find? own = some (.directory false)) (address : Address) :
    Settled fs after address := by
  by_cases inside : own <+: address
  · rcases prefix_iff_eq_or_isBelow.mp inside with rfl | below
    · exact .remade room again
    · obtain ⟨names, names_ne, rfl⟩ := isBelow_iff.mp below
      have now := replaced.inside names names_ne
      have before : fs.IsOpen (own ++ names) := by
        intro entry found
        obtain ⟨-, bytes, locked, -, -, file⟩ := results names entry names_ne found
        exact ⟨bytes, locked, file⟩
      have written : after.IsOpen (own ++ names) := by
        intro entry found
        obtain ⟨-, files, -, -, file⟩ := entryBelow?_eq_some (now.symm.trans found)
        exact ⟨_, _, file⟩
      cases stood : fs.find? (own ++ names) with
      | some entry =>
          obtain ⟨name, -, -, rfl, named, -⟩ := results names entry names_ne stood
          exact .result rfl named before written
      | none =>
          cases stands : entryBelow? listing names with
          | none => exact .same (by rw [now, stands, stood])
          | some entry =>
              obtain ⟨name, -, -, rfl, -⟩ := entryBelow?_eq_some stands
              exact .result rfl (isResultName_append name) before written
  · exact .same (replaced.outside address inside)

/-- A directory that can be read still can be after files were written. -/
theorem find?_directory_writeFiles {locked : Bool}
    (found : fs.find? address = some (.directory locked)) :
    (writeFiles target ⟨fs, paths, none⟩ listing).fs.find? address = some (.directory locked) := by
  obtain ⟨stored, there, same⟩ := keepsShapes_writeFiles fs target listing paths _ _ found
  cases stored with
  | directory lock =>
      obtain rfl := Entry.directory.inj same
      exact there
  | file bytes lock => cases same
  | link link => cases same

/-- A replacement that nothing stops, by a path that led somewhere before, has put the listing in
the place of the directory. -/
theorem exists_replaced (plain : fs.IsPlain) (spares : SparesCurrent fs target)
    (named : ∀ entry ∈ listing, IsRuleName entry.1) (nodup : (listing.map Prod.fst).Nodup)
    (there : fs.pathExists target = .ok true)
    (returned : (replace fs target listing).failure = none) :
    ∃ own, fs.LeadsTo true target own ∧ fs.hasDirectory own = true ∧
      Replaced fs own listing (replace fs target listing).fs ∧
      (replace fs target listing).fs.find? own = some (.directory false) ∧
      target.parts.getLast? ≠ some ".." := by
  rcases clears : clear fs target with ⟨cleared, _ | e⟩
  swap
  · rw [replace_of_stopped clears] at returned
    cases returned
  obtain ⟨own, room, again, rfl⟩ := exists_removed plain.housed there clears
  have leads := again.embed (embeds_eraseBelow fs own) rfl (.inl rfl)
  have ends := getLast?_of_removeTree leads room (by rw [← clear_of_pathExists there, clears])
  rcases replace_cases clears listing with ⟨-, result⟩ | ⟨_, _, -, result⟩ |
    ⟨-, ready, making, result⟩
  · rw [result] at returned
    cases returned
  · rw [result] at returned
    cases returned
  obtain ⟨houses, emptied, finished⟩ := replaced_remade plain.housed rfl
    (spares.begun plain.started again room) again room making
  obtain ⟨leadsReady, inside, begun⟩ := finished rfl
  have makes := (makes_makeDirectories ((fs.eraseBelow own).erase own) (target.parts.length + 1)
    target).1
  rw [making] at makes
  obtain ⟨written, -, replaced, all⟩ :=
    emptied.writeFiles houses begun leadsReady inside named nodup
  rw [result] at returned ⊢
  obtain ⟨rfl, -⟩ := all returned
  exact ⟨own, leads.followed_of_hasDirectory room, room, replaced,
    find?_directory_writeFiles (find?_remade_self makes inside), ends⟩

theorem makes_prepared (missing : fs.pathExists target ≠ .ok true) :
    Makes target fs (prepared fs target) := by
  have kept : (clear fs target).1 = fs := by
    rw [clear]
    split
    · rfl
    · rfl
    · contradiction
  rw [prepared, kept]
  exact (makes_makeDirectories fs _ target).1

/-- A replacement that nothing stops gives the paths of the listing, and leaves a tree in which every
directory stands in one. -/
theorem replace_of_unfailed (plain : fs.IsPlain) (spares : SparesCurrent fs target)
    (returned : (replace fs target listing).failure = none) :
    (replace fs target listing).paths = listing.map (fun entry => filePath target entry.1) ∧
      fs.Continues (replace fs target listing).fs ∧
      Writes (prepared fs target) target listing (replace fs target listing).fs := by
  obtain ⟨-, houses, begun, result, -⟩ :=
    exists_prepared_of_housed plain.housed plain.started spares returned
  obtain ⟨written, -, writes, all⟩ := @writes_writeFiles (prepared fs target) target listing []
    houses begun
  rw [result] at returned ⊢
  obtain ⟨rfl, paths⟩ := all returned
  exact ⟨paths, (continues_prepared fs target).trans (continues_writeFiles _ target _ []), writes⟩

/-- A replacement that nothing stops writes nothing but results if there was nothing else in the
directory. -/
theorem settles_replace (plain : fs.IsPlain) (spares : SparesCurrent fs target)
    (named : ∀ entry ∈ listing, IsRuleName entry.1) (nodup : (listing.map Prod.fst).Nodup)
    (results : ∀ own, fs.LeadsTo true target own → fs.hasDirectory own = true →
      HoldsResults fs own)
    (returned : (replace fs target listing).failure = none) :
    fs.Settles (replace fs target listing).fs := by
  obtain ⟨-, continues, writes⟩ := replace_of_unfailed plain spares returned
  have each (address : Address) : Settled fs (replace fs target listing).fs address := by
    by_cases there : fs.pathExists target = .ok true
    · obtain ⟨own, leads, room, replaced, again, -⟩ :=
        exists_replaced plain spares named nodup there returned
      exact settled_of_replaced room (results own leads room) replaced again address
    · exact settled_of_writes plain (makes_prepared there) writes address
  refine ⟨each, continues.current, continues.homes, ?_⟩
  exact isPlain_of_settled plain each continues.current writes.housed
    (continues.distinct plain.distinct)

/-! ## Writing once more -/

/-- The files of a listing can be written in a directory of files to which their paths lead. -/
theorem HoldsFiles.writeFiles_unfailed (holds : HoldsFiles fs own) (housed : fs.IsHoused)
    (begun : fs.hasDirectory (fs.startOf target) = true) (leads : fs.LeadsTo true target own)
    (room : fs.hasDirectory own = true) (named : ∀ entry ∈ listing, IsRuleName entry.1)
    (filed : ∀ entry ∈ listing, isShowable entry.2 = true ∧ IsFiled fs target own entry.1) :
    (Results.writeFiles target ⟨fs, paths, none⟩ listing).failure = none := by
  induction listing generalizing fs paths with
  | nil => rfl
  | cons entry listing induction =>
      obtain ⟨name, files⟩ := entry
      obtain ⟨⟨showable, here⟩, others⟩ := List.forall_mem_cons.mp filed
      obtain ⟨proper, further⟩ := List.forall_mem_cons.mp named
      have free : fs.find? (own ++ [name ++ ".json"]) = none ∨
          ∃ old, fs.find? (own ++ [name ++ ".json"]) = some (.file old false) := by
        cases found : fs.find? (own ++ [name ++ ".json"]) with
        | none => exact .inl rfl
        | some entry =>
            obtain ⟨_, old, -, rfl⟩ := holds _ entry (by simp) found
            exact .inr ⟨old, rfl⟩
      obtain ⟨next, stored⟩ : ∃ next, writeFile fs target name files = .ok next :=
        ⟨_, writeFile_eq_ok_iff.mpr ⟨showable, write_eq_ok_iff.mpr
          ⟨here.whole, _, false, here.leads, free.imp (⟨·, rfl⟩) id, rfl⟩⟩⟩
      obtain ⟨houses, current, embeds, -⟩ := embeds_of_write housed
        (hasDirectory_startOf_below begun _) (writeFile_eq_ok_iff.mp stored).2
      have fills := holds.write housed begun leads proper stored
      have holdsOn := holds.filled fills
      rw [Results.writeFiles, stored]
      apply induction holdsOn houses (hasDirectory_startOf_of_embeds embeds current begun)
        (leads.embed_of_hasDirectory embeds current room) (embeds.hasDirectory room) further
      intro entry member
      obtain ⟨shown, path, whole, leadsFile⟩ := others entry member
      refine ⟨shown, path, whole, leadsFile.embed embeds current (.inr ?_)⟩
      intro _ link found
      obtain ⟨_, _, -, file⟩ := holdsOn _ _ (by simp) found
      contradiction

/-- In a tree without links a directory with no directories in it is removed by its path, unless
that ends in two dots. -/
theorem clear_of_leads (plain : fs.IsPlain) (whole : hasNull target = false)
    (leads : fs.LeadsTo true target own) (found : fs.find? own = some (.directory false))
    (ends : target.parts.getLast? ≠ some "..")
    (flat : ∀ names, names ≠ [] → fs.hasDirectory (own ++ names) = false) :
    (fs.eraseBelow own).LeadsTo false target own ∧
      clear fs target = ((fs.eraseBelow own).erase own, none) := by
  have unfollowed : fs.LeadsTo false target own := Leads.of_plain leads plain false
  have again : (fs.eraseBelow own).LeadsTo false target own := by
    apply Leads.carry unfollowed plain
    · intro address link found
      exact plain.unlinked _ _ ((embeds_eraseBelow fs own).link found)
    · intro address inside
      rw [hasDirectory, find?_eraseBelow, if_neg]
      · exact inside
      · intro below
        obtain ⟨names, names_ne, rfl⟩ := isBelow_iff.mp below
        rw [flat names names_ne] at inside
        contradiction
  have room : fs.hasDirectory own = true := hasDirectory_iff.mpr ⟨false, found⟩
  have there : fs.pathExists target = .ok true :=
    pathExists_eq_ok_true_iff.mpr ⟨whole, own, leads, by simp [found]⟩
  have free : ¬fs.IsBarred own := by
    rintro ⟨_, ⟨names, rfl⟩, barred⟩
    rcases eq_or_ne names [] with rfl | names_ne
    · rw [List.append_nil, found] at barred
      cases barred
    · have inside := hasDirectory_iff.mpr ⟨true, barred⟩
      rw [flat names names_ne] at inside
      contradiction
  refine ⟨again, ?_⟩
  rw [clear_of_pathExists there,
    removeTree_of_leads plain.housed unfollowed room free again ends]

/-- The path of a rule's file leads to the file's place again in the directory that was made again,
as it has only one more name. -/
theorem IsFiled.again (filed : IsFiled fs target own name) (reaches : fs.Reaches target own)
    (leads : ready.LeadsTo true target own) (room : ready.hasDirectory own = true)
    (absent : ready.find? (own ++ [name ++ ".json"]) = none) : IsFiled ready target own name := by
  obtain ⟨path, whole, leadsFile⟩ := filed
  refine ⟨path, whole, ?_⟩
  have proper := isName_of_isResultName (isResultName_append name)
  rw [path] at leadsFile ⊢
  obtain ⟨short, -⟩ := (reaches.child_iff proper).mp leadsFile
  apply leads.extend room (by simp)
  apply leads_singleton proper short
  intro link found
  cases absent.symm.trans found

/-- A directory of a tree without links that holds the files of a listing and nothing else can be
replaced by the listing once more, unless its path ends in two dots. -/
theorem replace_unfailed (plain : fs.IsPlain) (spares : SparesCurrent fs target)
    (named : ∀ entry ∈ listing, IsRuleName entry.1) (whole : hasNull target = false)
    (leads : fs.LeadsTo true target own) (found : fs.find? own = some (.directory false))
    (ends : target.parts.getLast? ≠ some "..")
    (holds : ∀ names, names ≠ [] → fs.find? (own ++ names) = entryBelow? listing names)
    (filed : ∀ entry ∈ listing, isShowable entry.2 = true ∧ IsFiled fs target own entry.1) :
    (replace fs target listing).failure = none := by
  have room : fs.hasDirectory own = true := hasDirectory_iff.mpr ⟨false, found⟩
  have flat (names : List String) (names_ne : names ≠ []) :
      fs.hasDirectory (own ++ names) = false := by
    rw [Bool.eq_false_iff]
    intro inside
    obtain ⟨locked, found⟩ := hasDirectory_iff.mp inside
    obtain ⟨_, _, -, -, file⟩ := entryBelow?_eq_some ((holds names names_ne).symm.trans found)
    contradiction
  obtain ⟨again, clears⟩ := clear_of_leads plain whole leads found ends flat
  have begun := spares.begun plain.started again room
  have empty (name : String) : (fs.eraseBelow own).find? (own ++ [name]) = none :=
    (replaced_eraseBelow fs own).inside [name] (by simp)
  have making := makeDirectories_unfailed ((plain.housed.eraseBelow own).erase empty) plain
    (embeds_removed fs own) rfl begun whole leads room (Nat.lt_succ_self _)
  rcases replace_cases clears listing with ⟨null, -⟩ | ⟨ready, e, stopped, -⟩ |
    ⟨-, ready, made, result⟩
  · rw [whole] at null
    contradiction
  · rw [stopped] at making
    contradiction
  obtain ⟨houses, emptied, finished⟩ := replaced_remade plain.housed rfl begun again room made
  obtain ⟨leadsReady, inside, begunReady⟩ := finished rfl
  have holdsFiles : HoldsFiles ready own := by
    intro names entry names_ne stood
    cases (emptied.inside names names_ne).symm.trans stood
  rw [result]
  apply holdsFiles.writeFiles_unfailed houses begunReady leadsReady inside named
  intro entry member
  obtain ⟨shown, filedBefore⟩ := filed entry member
  exact ⟨shown, filedBefore.again ⟨plain, leads, room⟩ leadsReady inside
    (emptied.inside _ (by simp))⟩

/-- A second replacement ends as the first, with the same paths and the same file system. -/
structure Repeats (before again : Written) : Prop where
  failure : again.failure = before.failure
  paths : again.paths = before.paths
  fs : before.fs.Coincides again.fs

/-- Where a listing can be written again and again: the path does not end in two dots, and it leads
to a directory that can be read and holds nothing but files that the listing replaces. -/
structure IsRepeatable (fs : FileSystem) (target : Path) (own : Address) (listing : Listing) :
    Prop where
  ends : target.parts.getLast? ≠ some ".."
  ready : IsReady fs own listing
  readable : fs.find? own = some (.directory false)

section Repetition

variable (plain : fs.IsPlain) (spares : SparesCurrent fs target)
  (named : ∀ entry ∈ listing, IsRuleName entry.1) (nodup : (listing.map Prod.fst).Nodup)
  (returned : (replace fs target listing).failure = none)
  (plainAgain : (replace fs target listing).fs.IsPlain)
  (sparesAgain : SparesCurrent (replace fs target listing).fs target)

include plain spares named nodup returned

theorem isRepeatable_of_pathExists (leads : (prepared fs target).LeadsTo true target own)
    (there : fs.pathExists target = .ok true) :
    IsRepeatable (prepared fs target) target own listing := by
  obtain ⟨-, -, -, -, place, leadsPlace, -, emptied⟩ :=
    exists_prepared_of_housed plain.housed plain.started spares returned
  obtain rfl := leads.unique leadsPlace
  obtain ⟨readable, empty⟩ := emptied there
  obtain ⟨-, -, -, -, -, ends⟩ := exists_replaced plain spares named nodup there returned
  refine ⟨ends, ⟨?_, .inr readable⟩, readable⟩
  intro names entry names_ne found
  cases (empty names names_ne).symm.trans found

omit named nodup in
/-- A path without double dots that led nowhere before leads to a new directory. -/
theorem isRepeatable_of_straight (leads : (prepared fs target).LeadsTo true target own)
    (room : (prepared fs target).hasDirectory own = true)
    (missing : fs.pathExists target ≠ .ok true) (straight : ".." ∉ target.parts) :
    IsRepeatable (prepared fs target) target own listing := by
  obtain ⟨whole, -⟩ := exists_prepared_of_housed plain.housed plain.started spares returned
  have begun := plain.begun target
  have makes := makes_prepared missing
  have grows := makes.grows plain.housed begun
  have unlinked := makes.unlinked plain
  have fresh : fs.hasDirectory own = false := by
    rw [Bool.eq_false_iff]
    intro stood
    obtain ⟨locked, found⟩ := hasDirectory_iff.mp stood
    have leadsBefore : fs.LeadsTo true target own := by
      rw [LeadsTo, ← startOf_of_current grows.current]
      exact Leads.of_room leads unlinked straight plain.housed stood
    exact missing (pathExists_eq_ok_true_iff.mpr ⟨whole, own, leadsBefore, by simp [found]⟩)
  have readable : (prepared fs target).find? own = some (.directory false) := by
    rcases makes.find? own with same | made
    · rw [hasDirectory, same] at room
      rw [hasDirectory, room] at fresh
      contradiction
    · exact made
  refine ⟨fun last => straight (List.mem_of_getLast? last), ⟨?_, .inr readable⟩, readable⟩
  intro names entry names_ne found
  exfalso
  rcases grows.adds (own ++ names) with same | ⟨absent, below⟩
  · obtain ⟨before, last, rfl⟩ := (List.eq_nil_or_concat names).resolve_left names_ne
    rw [List.concat_eq_append, ← List.append_assoc] at same found
    have above := plain.housed _ _ _ (same.symm.trans found)
    rw [plain.housed.hasDirectory_of_prefix above] at fresh
    contradiction
  · -- A directory below would be made by a longer path than that of the directory itself.
    obtain ⟨prior, higher, leadsPrior⟩ := makes.exists_isAbove plain.housed begun absent below
    have own_eq := Leads.address_eq leads unlinked straight
    have below_eq := Leads.address_eq leadsPrior unlinked fun up => straight (higher.parts.subset up)
    rw [startOf_of_isAbove higher] at below_eq
    have shorter := (higher.parts.filter (· != ".")).length_le
    have lengths := congrArg List.length (own_eq ▸ below_eq)
    have longer := List.length_pos_of_ne_nil names_ne
    simp only [List.length_append] at lengths
    omega

include plainAgain sparesAgain

/-- If a second replacement has the same effect, then that of the directory has. -/
theorem Repeats.isRepeatable
    (repeats : Repeats (replace fs target listing)
      (replace (replace fs target listing).fs target listing))
    (leads : (prepared fs target).LeadsTo true target own)
    (room : (prepared fs target).hasDirectory own = true) :
    IsRepeatable (prepared fs target) target own listing := by
  obtain ⟨whole, -, -, result, -⟩ :=
    exists_prepared_of_housed plain.housed plain.started spares returned
  obtain ⟨-, -, writes⟩ := replace_of_unfailed plain spares returned
  have leadsAfter := leads.embed_of_hasDirectory writes.embeds writes.current room
  obtain ⟨_, stands⟩ := hasDirectory_iff.mp (writes.embeds.hasDirectory room)
  have there : (replace fs target listing).fs.pathExists target = .ok true :=
    pathExists_eq_ok_true_iff.mpr ⟨whole, own, leadsAfter, by simp [stands]⟩
  obtain ⟨place, leadsPlace, -, replaced, again, ends⟩ := exists_replaced plainAgain sparesAgain
    named nodup there (repeats.failure.trans returned)
  obtain rfl := leadsAfter.unique leadsPlace
  have holds (names : List String) (names_ne : names ≠ []) :
      (replace fs target listing).fs.find? (own ++ names) = entryBelow? listing names := by
    rw [← repeats.fs.same]
    exact replaced.inside names names_ne
  rw [repeats.fs.same] at again
  rw [result] at holds again
  have readable : (prepared fs target).find? own = some (.directory false) := by
    obtain ⟨locked, found⟩ := hasDirectory_iff.mp room
    obtain rfl := Entry.directory.inj (Option.some.inj
      ((find?_directory_writeFiles found).symm.trans again))
    exact found
  exact ⟨ends, ⟨fun names entry => replaced_of_holds holds, .inr readable⟩, readable⟩

/-- Where a listing can be written again and again, a second replacement has the same effect. -/
theorem IsRepeatable.repeats
    (repeatable : IsRepeatable (prepared fs target) target own listing)
    (leads : (prepared fs target).LeadsTo true target own) :
    Repeats (replace fs target listing)
      (replace (replace fs target listing).fs target listing) := by
  obtain ⟨whole, houses, begun, result, -⟩ :=
    exists_prepared_of_housed plain.housed plain.started spares returned
  obtain ⟨paths, -, writes⟩ := replace_of_unfailed plain spares returned
  have room : (prepared fs target).hasDirectory own = true :=
    hasDirectory_iff.mpr ⟨false, repeatable.readable⟩
  have leadsAfter := leads.embed_of_hasDirectory writes.embeds writes.current room
  obtain ⟨written, -, all, fills⟩ := @HoldsFiles.writeFiles _ target own listing []
    repeatable.ready.holdsFiles houses begun leads room named nodup
  rw [← result] at all fills
  rw [all returned] at fills
  have stands : (replace fs target listing).fs.find? own = some (.directory false) := by
    rw [fills.outside own not_isBelow_self, repeatable.readable]
  have holds (names : List String) (names_ne : names ≠ []) :
      (replace fs target listing).fs.find? (own ++ names) = entryBelow? listing names :=
    repeatable.ready.find?_filled nodup fills names_ne
  have unfailed := replace_unfailed plainAgain sparesAgain named whole leadsAfter stands
    repeatable.ends holds fills.filed
  have there : (replace fs target listing).fs.pathExists target = .ok true :=
    pathExists_eq_ok_true_iff.mpr ⟨whole, own, leadsAfter, by simp [stands]⟩
  obtain ⟨place, leadsPlace, -, replaced, again, -⟩ :=
    exists_replaced plainAgain sparesAgain named nodup there unfailed
  obtain rfl := leadsAfter.unique leadsPlace
  obtain ⟨pathsAgain, continues, -⟩ := replace_of_unfailed plainAgain sparesAgain unfailed
  refine ⟨unfailed.trans returned.symm, pathsAgain.trans paths.symm,
    continues.current, continues.homes, ?_⟩
  intro address
  by_cases inside : own <+: address
  · obtain ⟨names, rfl⟩ := inside
    rcases eq_or_ne names [] with rfl | names_ne
    · rw [List.append_nil, again, stands]
    · rw [replaced.inside names names_ne, holds names names_ne]
  · exact replaced.outside address inside

end Repetition

/-- A replacement that nothing stops has the same effect once more exactly where the directory, once
it was made, could be read and held nothing but files of the listing, and the path does not end in
two dots: always so if the path led somewhere before or has no double dots. -/
theorem repeats_replace_iff (plain : fs.IsPlain) (spares : SparesCurrent fs target)
    (named : ∀ entry ∈ listing, IsRuleName entry.1) (nodup : (listing.map Prod.fst).Nodup)
    (returned : (replace fs target listing).failure = none)
    (plainAgain : (replace fs target listing).fs.IsPlain)
    (sparesAgain : SparesCurrent (replace fs target listing).fs target) :
    ∃ own, (replace fs target listing).fs.LeadsTo true target own ∧
      (Repeats (replace fs target listing) (replace (replace fs target listing).fs target listing) ↔
        IsRepeatable (prepared fs target) target own listing) ∧
      (fs.pathExists target = .ok true ∨ ".." ∉ target.parts →
        IsRepeatable (prepared fs target) target own listing) := by
  obtain ⟨-, -, -, -, own, leads, room, -⟩ :=
    exists_prepared_of_housed plain.housed plain.started spares returned
  obtain ⟨-, -, writes⟩ := replace_of_unfailed plain spares returned
  refine ⟨own, leads.embed_of_hasDirectory writes.embeds writes.current room, ⟨?_, ?_⟩, ?_⟩
  · intro repeats
    exact repeats.isRepeatable plain spares named nodup returned plainAgain sparesAgain leads room
  · intro repeatable
    exact repeatable.repeats plain spares named nodup returned plainAgain sparesAgain leads
  · intro usual
    by_cases there : fs.pathExists target = .ok true
    · exact isRepeatable_of_pathExists plain spares named nodup returned leads there
    · exact isRepeatable_of_straight plain spares returned leads room there (usual.resolve_left there)

end Baseline.Results
