import Baseline.Proofs.Results.Loading
import Baseline.Report.Coercion

/-!
# Results are loaded as they were written

Where the results directory of a project was there, it holds after writing the files of the new
listing and nothing else, and is loaded as that listing. Where its path led nowhere, the directories
of the path are made, and the path may lead to a directory that was there under another name: what
it held stays in it.
-/

namespace Baseline

/-- An entry without the bytes that it holds. -/
def Entry.shape : Entry → Entry
  | .file _ locked => .file [] locked
  | entry => entry

namespace Results

open FileSystem

variable {fs after ready : FileSystem} {target path : Path} {own address : Address}
  {listing : Listing} {paths : List Path} {bytes : List UInt8} {entry : Entry}

/-! ## What writing keeps -/

/-- Every entry stays, what it is and whether it can be read. -/
def KeepsShapes (fs after : FileSystem) : Prop :=
  ∀ address entry, fs.find? address = some entry →
    ∃ stored, after.find? address = some stored ∧ stored.shape = entry.shape

theorem keepsShapes_write (written : fs.write path bytes = .ok after) : KeepsShapes fs after := by
  obtain ⟨-, place, locked, -, before, rfl⟩ := write_eq_ok_iff.mp written
  intro address entry found
  rcases eq_or_ne address place with rfl | differs
  · rcases before with ⟨absent, -⟩ | ⟨old, stood⟩
    · cases absent.symm.trans found
    · obtain rfl := Option.some.inj (stood.symm.trans found)
      refine ⟨_, find?_put_self ?_ _, rfl⟩
      rintro rfl
      cases stood
  · exact ⟨entry, by rw [find?_put_of_ne _ differs, found], rfl⟩

theorem keepsShapes_writeFiles (fs : FileSystem) (target : Path) (listing : Listing)
    (paths : List Path) : KeepsShapes fs (writeFiles target ⟨fs, paths, none⟩ listing).fs := by
  induction listing generalizing fs paths with
  | nil => exact fun _ entry found => ⟨entry, found, rfl⟩
  | cons entry listing induction =>
      obtain ⟨name, files⟩ := entry
      rw [writeFiles]
      cases stored : writeFile fs target name files with
      | error e => exact fun _ entry found => ⟨entry, found, rfl⟩
      | ok next =>
          intro address entry found
          obtain ⟨middle, there, same⟩ :=
            keepsShapes_write (writeFile_eq_ok_iff.mp stored).2 address entry found
          obtain ⟨last, stands, alike⟩ := induction next (paths ++ [filePath target name]) _ _ there
          exact ⟨last, stands, alike.trans same⟩

/-! ## Where files are written -/

/-- The file system in which the files of a listing are written. -/
def prepared (fs : FileSystem) (target : Path) : FileSystem :=
  ((clear fs target).1.makeDirectories (target.parts.length + 1) target).1

/-- A directory that is made again after its removal can be read. -/
theorem find?_remade_self (makes : Makes target (fs.erase own) ready)
    (room : ready.hasDirectory own = true) : ready.find? own = some (.directory false) := by
  rcases makes.find? own with same | made
  · rcases eq_or_ne own [] with rfl | present
    · rfl
    · rw [find?_erase, if_pos ⟨rfl, present⟩] at same
      rw [hasDirectory_of_absent same] at room
      contradiction
  · exact made

/-- Where the path led somewhere, a replacement that nothing stops has removed the directory. -/
theorem exists_removed (housed : fs.IsHoused) (there : fs.pathExists target = .ok true)
    {cleared : FileSystem}
    (clears : clear fs target = (cleared, none)) :
    ∃ own, fs.hasDirectory own = true ∧ (fs.eraseBelow own).LeadsTo false target own ∧
      cleared = (fs.eraseBelow own).erase own := by
  rw [clear_of_pathExists there] at clears
  by_cases inside : ∃ own, fs.LeadsTo false target own ∧ fs.hasDirectory own = true
  · obtain ⟨own, leads, room⟩ := inside
    rcases removeTree_of_hasDirectory housed leads room with ⟨-, stopped, -⟩ |
      ⟨-, ⟨stopped, -⟩ | ⟨-, again, same⟩⟩
    · rw [clears] at stopped
      exact (stopped rfl).elim
    · rw [clears] at stopped
      exact (stopped rfl).elim
    · rw [clears] at same
      exact ⟨own, room, again, same⟩
  · have outside : ∀ own, fs.LeadsTo false target own → fs.hasDirectory own = false := by
      simpa using inside
    obtain ⟨stopped, -⟩ := removeTree_of_not_hasDirectory outside
    rw [clears] at stopped
    exact (stopped rfl).elim

/-- A path starts at the root if it leads to the current directory or to one that holds it. -/
def SparesCurrent (fs : FileSystem) (path : Path) : Prop :=
  ∀ own, fs.LeadsTo true path own → own <+: fs.current → path.isAbsolute = true

/-- Where a path starts there is still a directory once the one to which it led is removed. -/
theorem SparesCurrent.begun (spares : SparesCurrent fs target)
    (started : fs.hasDirectory fs.current = true)
    (leads : (fs.eraseBelow own).LeadsTo false target own) (room : fs.hasDirectory own = true) :
    ((fs.eraseBelow own).erase own).hasDirectory
      (((fs.eraseBelow own).erase own).startOf target) = true := by
  by_cases absolute : target.isAbsolute = true
  · exact hasDirectory_startOf_of_isAbsolute absolute
  · have leadsBefore := leads.embed (embeds_eraseBelow fs own) rfl (.inl rfl)
    have outside : ¬own <+: fs.current := fun inside =>
      absolute (spares own (leadsBefore.followed_of_hasDirectory room) inside)
    have start : ((fs.eraseBelow own).erase own).startOf target = fs.current := by
      rw [startOf, if_neg absolute]
      rfl
    obtain ⟨differs, unreached⟩ := not_or.mp (mt prefix_iff_eq_or_isBelow.mpr outside)
    rw [start, hasDirectory, find?_erase_of_ne differs, find?_eraseBelow, if_neg unreached]
    exact started

/-- A replacement that nothing stops writes the files in the directory that has been prepared, which
is empty and can be read where the results directory was there before. -/
theorem exists_prepared_of_housed (housed : fs.IsHoused)
    (started : fs.hasDirectory fs.current = true) (spares : SparesCurrent fs target)
    (returned : (replace fs target listing).failure = none) :
    hasNull target = false ∧ (prepared fs target).IsHoused ∧
      (prepared fs target).hasDirectory ((prepared fs target).startOf target) = true ∧
      replace fs target listing = writeFiles target ⟨prepared fs target, [], none⟩ listing ∧
      ∃ own, (prepared fs target).LeadsTo true target own ∧
        (prepared fs target).hasDirectory own = true ∧
        (fs.pathExists target = .ok true →
          (prepared fs target).find? own = some (.directory false) ∧
            ∀ names, names ≠ [] → (prepared fs target).find? (own ++ names) = none) := by
  rcases clears : clear fs target with ⟨cleared, _ | e⟩
  swap
  · rw [replace_of_stopped clears] at returned
    cases returned
  rcases replace_cases clears listing with ⟨-, result⟩ | ⟨_, _, -, result⟩ |
    ⟨whole, ready, making, result⟩
  · rw [result] at returned
    cases returned
  · rw [result] at returned
    cases returned
  have ends : prepared fs target = ready := by
    rw [prepared, clears, making]
  have makes := (makes_makeDirectories cleared (target.parts.length + 1) target).1
  rw [making] at makes
  rw [ends]
  by_cases there : fs.pathExists target = .ok true
  · obtain ⟨own, room, again, rfl⟩ := exists_removed housed there clears
    obtain ⟨houses, emptied, finished⟩ := replaced_remade housed rfl
      (spares.begun started again room) again room making
    obtain ⟨leads, inside, begun⟩ := finished rfl
    exact ⟨whole, houses, begun, result, own, leads, inside,
      fun _ => ⟨find?_remade_self makes inside, emptied.inside⟩⟩
  · have kept : cleared = fs := by
      rw [clear] at clears
      split at clears
      · cases clears
      · exact (Prod.mk.inj clears).1.symm
      · contradiction
    subst kept
    have begun : cleared.hasDirectory (cleared.startOf target) = true := by
      rw [startOf]
      split
      · rfl
      · exact started
    have reaches := @leadsTo_of_makeDirectories cleared (target.parts.length + 1) target housed begun
    rw [making] at reaches
    obtain ⟨own, leads, inside⟩ := reaches rfl
    have grows := makes.grows housed begun
    exact ⟨whole, grows.housed, grows.begun begun (.refl target), result, own, leads, inside,
      fun found => (there found).elim⟩

theorem exists_prepared (tree : fs.IsTree) (spares : SparesCurrent fs target)
    (returned : (replace fs target listing).failure = none) :
    hasNull target = false ∧ (prepared fs target).IsHoused ∧
      (prepared fs target).hasDirectory ((prepared fs target).startOf target) = true ∧
      replace fs target listing = writeFiles target ⟨prepared fs target, [], none⟩ listing ∧
      ∃ own, (prepared fs target).LeadsTo true target own ∧
        (prepared fs target).hasDirectory own = true ∧
        (fs.pathExists target = .ok true →
          (prepared fs target).find? own = some (.directory false) ∧
            ∀ names, names ≠ [] → (prepared fs target).find? (own ++ names) = none) :=
  exists_prepared_of_housed tree.isHoused tree.started spares returned

/-! ## What is loaded -/

/-- A directory to which a path leads holds the files of a listing, where their paths lead, and
nothing else, and is loaded as the listing. -/
structure RoundTrips (fs : FileSystem) (target : Path) (own : Address) (listing : Listing) :
    Prop where
  holds : ∀ names, names ≠ [] → fs.find? (own ++ names) = entryBelow? listing names
  leads : ∀ entry ∈ listing,
    fs.LeadsTo true (filePath target entry.1) (own ++ [entry.1 ++ ".json"])
  loads : ∃ loaded, load fs target = .ok loaded ∧ loaded.Perm listing

/-- A directory can be read, and holds nothing but files that can be read and that the files of a
listing replace. -/
structure IsReady (fs : FileSystem) (own : Address) (listing : Listing) : Prop where
  replaced : ∀ names entry, names ≠ [] → fs.find? (own ++ names) = some entry →
    ∃ name bytes, name ∈ listing.map Prod.fst ∧ names = [name ++ ".json"] ∧
      entry = .file bytes false
  readable : listing = [] ∨ fs.find? own = some (.directory false)

theorem IsRuleName.ne_empty {name : String} (named : IsRuleName name) : name ≠ "" := by
  obtain ⟨language, rule, rfl⟩ := named
  simp [Listing.ruleName, String.append_eq_empty_iff]

/-- Nothing is loaded from a directory that cannot be read. -/
theorem load_of_locked (whole : hasNull target = false) (leads : fs.LeadsTo true target own)
    (locked : fs.find? own = some (.directory true)) : load fs target = .ok [] := by
  have directory := isDirectory_eq_ok_true_iff.mpr
    ⟨whole, own, leads, hasDirectory_iff.mpr ⟨true, locked⟩⟩
  have unlisted : fs.list target = .error .denied := by
    simp only [list, leads.locate, locked]
  rw [load, resultFiles, directory]
  simp only [unlisted]
  rfl

/-- What a directory held before the files of a listing were all that it held were such files. -/
theorem replaced_of_holds (holds : ∀ names, names ≠ [] →
      (writeFiles target ⟨fs, paths, none⟩ listing).fs.find? (own ++ names) =
        entryBelow? listing names) {names : List String} (names_ne : names ≠ [])
    (found : fs.find? (own ++ names) = some entry) :
    ∃ name bytes, name ∈ listing.map Prod.fst ∧ names = [name ++ ".json"] ∧
      entry = .file bytes false := by
  obtain ⟨stored, there, same⟩ := keepsShapes_writeFiles fs target listing paths _ _ found
  rw [holds names names_ne] at there
  obtain ⟨name, files, member, named, rfl⟩ := entryBelow?_eq_some there
  cases entry with
  | file bytes locked =>
      simp only [fileOf, Entry.shape, Entry.file.injEq] at same
      exact ⟨name, bytes, List.mem_map_of_mem member, named, by rw [← same.2]⟩
  | directory locked => simp [fileOf, Entry.shape] at same
  | link link => simp [fileOf, Entry.shape] at same

theorem RoundTrips.isReady (whole : hasNull target = false) (room : fs.hasDirectory own = true)
    (trips : RoundTrips (writeFiles target ⟨fs, [], none⟩ listing).fs target own listing)
    (leadsAfter : (writeFiles target ⟨fs, [], none⟩ listing).fs.LeadsTo true target own) :
    IsReady fs own listing := by
  have keeps := keepsShapes_writeFiles fs target listing []
  constructor
  · exact fun names entry names_ne => replaced_of_holds trips.holds names_ne
  · obtain ⟨locked, found⟩ := hasDirectory_iff.mp room
    cases locked with
    | false => exact .inr found
    | true =>
        obtain ⟨stored, there, same⟩ := keeps _ _ found
        have still : stored = .directory true := by
          cases stored <;> simp_all [Entry.shape]
        rw [still] at there
        obtain ⟨loaded, loads, same⟩ := trips.loads
        rw [load_of_locked whole leadsAfter there] at loads
        cases loads
        exact .inl same.nil_eq.symm

theorem IsReady.holdsFiles (ready : IsReady fs own listing) : HoldsFiles fs own := by
  intro names entry names_ne found
  obtain ⟨name, bytes, -, rfl, rfl⟩ := ready.replaced names entry names_ne found
  exact ⟨_, _, rfl, rfl⟩

/-- Once the files of the listing are written, they are all that the directory holds. -/
theorem IsReady.find?_filled (ready : IsReady fs own listing)
    (nodup : (listing.map Prod.fst).Nodup) (fills : Fills fs target own listing after)
    {names : List String} (names_ne : names ≠ []) :
    after.find? (own ++ names) = entryBelow? listing names := by
  rw [fills.inside names names_ne]
  cases found : fs.find? (own ++ names) with
  | none => exact Option.or_none
  | some entry =>
      obtain ⟨name, bytes, member, rfl, -⟩ := ready.replaced names entry names_ne found
      obtain ⟨⟨_, files⟩, listed, rfl⟩ := List.mem_map.mp member
      rw [entryBelow?_of_mem nodup listed]
      rfl

theorem IsReady.roundTrips (ready : IsReady fs own listing) (housed : fs.IsHoused)
    (begun : fs.hasDirectory (fs.startOf target) = true) (whole : hasNull target = false)
    (leads : fs.LeadsTo true target own) (room : fs.hasDirectory own = true)
    (named : ∀ entry ∈ listing, IsRuleName entry.1) (nodup : (listing.map Prod.fst).Nodup)
    (keys : ∀ entry ∈ listing, (entry.2.map Prod.fst).Nodup)
    (returned : (writeFiles target ⟨fs, [], none⟩ listing).failure = none) :
    RoundTrips (writeFiles target ⟨fs, [], none⟩ listing).fs target own listing := by
  obtain ⟨written, -, all, fills⟩ := @HoldsFiles.writeFiles fs target own listing []
    ready.holdsFiles housed begun leads room named nodup
  rw [all returned] at fills
  obtain ⟨_, -, writes, -⟩ := @writes_writeFiles fs target listing [] housed begun
  have stands {names : List String} (names_ne : names ≠ []) :=
    ready.find?_filled nodup fills names_ne
  refine ⟨fun names => stands, fun entry member => (fills.filed entry member).2.leads, ?_⟩
  apply exists_load whole (leads.embed_of_hasDirectory writes.embeds writes.current room)
    (writes.embeds.hasDirectory room)
  case readable =>
    refine ready.readable.imp id fun found => ?_
    rw [fills.outside own not_isBelow_self, found]
  case only =>
    intro name
    rw [stands (by simp)]
    exact entryBelow?_ne_none_iff nodup
  case nodup => exact nodup
  case named => exact fun entry member => (named entry member).ne_empty
  case loads =>
    intro entry member
    obtain ⟨showable, path, wholeFile, leadsFile⟩ := fills.filed entry member
    rw [path] at wholeFile leadsFile
    apply loadFile_of_fileOf wholeFile leadsFile _ (keys entry member) showable
    rw [stands (by simp), entryBelow?_of_mem nodup member]

/-! ## Listings -/

theorem pairwise_ofReport (project base : String) (report : Report) :
    ((Listing.ofReport project base report).map Prod.fst).Pairwise (· < ·) := by
  simp only [Listing.ofReport, Listing.ofEntries, List.map_map, Function.comp_def, List.map_id']
  exact Text.pairwise_sortedDistinct _

/-- Each file is listed once under a rule. -/
theorem nodup_keys_ofReport {project base : String} {report : Report}
    {entry : String × FileLines} (member : entry ∈ Listing.ofReport project base report) :
    (entry.2.map Prod.fst).Nodup := by
  simp only [Listing.ofReport, Listing.ofEntries, List.mem_map] at member
  obtain ⟨name, -, rfl⟩ := member
  simp only [Listing.fileLines, List.map_map, Function.comp_def, List.map_id']
  exact Text.nodup_sortedDistinct _

/-- Writing that returns gives the files of the listing in the order of their names, in the
directory to which the path of the project leads. This holds the listing and nothing else, and is
loaded as it, exactly if there was nothing in it, once it was made, but files of the listing: always
so if the path led somewhere before. Only a write by a path that starts in the directory which it
removes is not spoken of. -/
theorem write_roundTrips_iff {results directory : Path} {project : String} {report : Report}
    (tree : fs.IsTree) (spares : SparesCurrent fs (projectDirectory results project))
    (returned : (write fs results project directory report).failure = none) :
    let target := projectDirectory results project
    let listing := listingOf fs project directory report
    let written := write fs results project directory report
    written.paths = listing.map (fun entry => filePath target entry.1) ∧
      (listing.map Prod.fst).Pairwise (· < ·) ∧
      ∃ own, written.fs.LeadsTo true target own ∧ written.fs.hasDirectory own = true ∧
        (RoundTrips written.fs target own listing ↔ IsReady (prepared fs target) own listing) ∧
        (fs.pathExists target = .ok true → RoundTrips written.fs target own listing) := by
  intro target listing written
  have named : ∀ entry ∈ listing, IsRuleName entry.1 :=
    fun entry member => isRuleName_of_mem_ofReport member
  have nodup : (listing.map Prod.fst).Nodup := nodup_ofReport _ _ _
  have keys : ∀ entry ∈ listing, (entry.2.map Prod.fst).Nodup :=
    fun entry member => nodup_keys_ofReport member
  obtain ⟨whole, houses, begun, result, own, leads, room, emptied⟩ :=
    exists_prepared tree spares returned
  have same : written = writeFiles target ⟨prepared fs target, [], none⟩ listing := result
  have unfailed : (writeFiles target ⟨prepared fs target, [], none⟩ listing).failure = none := by
    rw [← same]
    exact returned
  obtain ⟨_, -, writes, all⟩ := @writes_writeFiles (prepared fs target) target listing []
    houses begun
  obtain ⟨rfl, paths⟩ := all unfailed
  have leadsAfter := leads.embed_of_hasDirectory writes.embeds writes.current room
  have trips (ready : IsReady (prepared fs target) own listing) :=
    ready.roundTrips houses begun whole leads room named nodup keys unfailed
  rw [same]
  refine ⟨by rw [paths, List.nil_append], pairwise_ofReport _ _ _, own, leadsAfter,
    writes.embeds.hasDirectory room, ⟨fun round => round.isReady whole room leadsAfter, trips⟩, ?_⟩
  intro there
  obtain ⟨readable, empty⟩ := emptied there
  refine trips ⟨?_, .inr readable⟩
  intro names entry names_ne found
  cases (empty names names_ne).symm.trans found

/-- Results of an earlier run. -/
def staleResults : FileSystem :=
  { entries := [(["w"], .directory false), (["w", "actual"], .directory false),
      (["w", "actual", "p"], .directory false),
      (["w", "actual", "p", "javascript-S9.json"], .file (Text.Utf8.encode "{}".toList) false)]
    current := ["w"]
    homes := [] }

/-- An analyzer's answer with one finding. -/
def issuePayload : Payload :=
  .map [("p/a.js", .map [("issues", .list [.map [("ruleId", .text "S1"), ("line", .int 3)]])])]

/-- The report of the finding. -/
def issueReport : Report := (Report.ofPayload issuePayload).toOption.getD ∅

/-- The finding is written for a project. -/
def writeIssue (project : String) : Written :=
  write staleResults (Path.parse "/w/actual") project (Path.parse "p") issueReport

theorem write_roundTrips_iff_staleResults :
    staleResults.IsTree ∧ SparesCurrent staleResults (Path.parse "/w/actual/p") ∧
      (writeIssue "p").failure = none ∧ ∃ own, RoundTrips (writeIssue "p").fs (Path.parse "/w/actual/p") own
        (listingOf staleResults "p" (Path.parse "p") issueReport) := by
  have tree : staleResults.IsTree := by decide
  have returned : (writeIssue "p").failure = none := by decide +kernel
  have there : staleResults.pathExists (Path.parse "/w/actual/p") = .ok true := by decide +kernel
  have target : projectDirectory (Path.parse "/w/actual") "p" = Path.parse "/w/actual/p" := by
    decide +kernel
  have spares : SparesCurrent staleResults (Path.parse "/w/actual/p") :=
    fun _ _ _ => by decide
  have trip := write_roundTrips_iff tree (by rw [target]; exact spares) returned
  rw [target] at trip
  obtain ⟨-, -, own, -, -, -, trips⟩ := trip
  exact ⟨tree, spares, returned, own, trips there⟩

/-- Where the path of a project passes through a directory that is not there yet, nothing is
removed, and the file of an earlier run stays beside the new one. -/
theorem detouredWrite_not_roundTrips :
    Report.ofPayload issuePayload = .ok issueReport ∧ staleResults.IsTree ∧
      (writeIssue "new/../p").failure = none ∧
      ∀ own, (writeIssue "new/../p").fs.LeadsTo true (Path.parse "/w/actual/new/../p") own →
        ¬RoundTrips (writeIssue "new/../p").fs (Path.parse "/w/actual/new/../p") own
          (listingOf staleResults "new/../p" (Path.parse "p") issueReport) := by
  have located : (writeIssue "new/../p").fs.locate true (Path.parse "/w/actual/new/../p") =
      .ok ⟨["w", "actual", "p"], some (.directory false)⟩ := by decide +kernel
  have stale : (writeIssue "new/../p").fs.find? ["w", "actual", "p", "javascript-S9.json"] ≠
      none := by decide +kernel
  have unlisted : entryBelow? (listingOf staleResults "new/../p" (Path.parse "p") issueReport)
      ["javascript-S9.json"] = none := by decide +kernel
  refine ⟨rfl, by decide, by decide +kernel, ?_⟩
  intro own leads trips
  obtain rfl := leads.unique (locate_eq_ok_iff.mp located).1
  exact stale ((trips.holds ["javascript-S9.json"] (by simp)).trans unlisted)

end Results

end Baseline
