import Baseline.Proofs.FileSystem.Making
import Baseline.Proofs.Text.Order
import Baseline.Proofs.Text.Pieces
import Baseline.Report.Listing
import Baseline.Results

/-!
# How results are replaced

The files of a listing are written next to each other in the directory of a project, whatever the
rules are called. The directory is emptied before. So at every moment it holds the files that have
been written up to then and nothing else, also if the writing stops, and nothing outside is changed.
-/

namespace Baseline.Results

open FileSystem

variable {fs after : FileSystem} {target : Path} {address : Address} {listing : Listing}
  {name : String} {names : List String} {files : FileLines} {paths : List Path}

/-! ## Names of result files -/

/-- A text is the name under which a rule is listed. -/
def IsRuleName (name : String) : Prop := ∃ language rule, name = Listing.ruleName language rule

/-- The spelling of a rule's file starts and ends with a letter. -/
theorem exists_letters (language : Option Language) (rule : String) :
    ∃ c middle, (Listing.ruleName language rule ++ ".json").toList = c :: middle ++ ['n'] ∧
      (c = 'j' ∨ c = 't') := by
  rw [Listing.ruleName]
  cases language.getD .javascript with
  | javascript =>
      refine ⟨'j', "avascript-".toList ++ rule.toList ++ ".jso".toList, ?_, .inl rfl⟩
      simp [Language.displayName]
  | typescript =>
      refine ⟨'t', "ypescript-".toList ++ rule.toList ++ ".jso".toList, ?_, .inr rfl⟩
      simp [Language.displayName]

/-- The file of a rule is named within its directory, by one name only if that is all of it. -/
theorem IsRuleName.parse (named : IsRuleName name) :
    (Path.parse (name ++ ".json")).root = .none ∧
      ∃ first rest, (Path.parse (name ++ ".json")).parts = first :: rest ∧ isName first = true ∧
        (rest = [] → first = name ++ ".json") := by
  obtain ⟨language, rule, rfl⟩ := named
  obtain ⟨c, middle, spelled, letter⟩ := exists_letters language rule
  have slash : c ≠ '/' := by
    rcases letter with rfl | rfl <;> decide
  have dot : c ≠ '.' := by
    rcases letter with rfl | rfl <;> decide
  obtain ⟨root, first, rest, parts, starts, single⟩ :=
    Path.parse_of_letters spelled slash dot (by decide) (by decide)
  refine ⟨root, first, rest, parts, isName_iff.mpr ⟨?_, ?_⟩, single⟩
  · rintro rfl
    exact dot (by simpa using starts.symm)
  · rintro rfl
    exact dot (by simpa using starts.symm)

theorem IsRuleName.filePath (named : IsRuleName name) (target : Path) :
    ∃ first rest, filePath target name = ⟨target.root, target.parts ++ first :: rest⟩ ∧
      isName first = true ∧ (rest = [] → first = name ++ ".json") := by
  obtain ⟨root, first, rest, parts, proper, single⟩ := named.parse
  refine ⟨first, rest, ?_, proper, single⟩
  simp [Results.filePath, Path.below, Path.join, Path.isAbsolute, root, parts]

theorem isRuleName_of_mem_ofReport {project base : String} {report : Report}
    (member : (name, files) ∈ Listing.ofReport project base report) : IsRuleName name := by
  simp only [Listing.ofReport, Listing.ofEntries, List.mem_map, Text.mem_sortedDistinct] at member
  obtain ⟨other, ⟨entry, found, rfl⟩, same⟩ := member
  obtain ⟨rfl, -⟩ := Prod.mk.inj same
  simp only [Listing.entries, List.mem_flatMap, Listing.fileEntries, List.mem_map] at found
  obtain ⟨⟨path, file⟩, -, issue, -, rfl⟩ := found
  exact ⟨_, _, rfl⟩

/-- Each rule is listed once. -/
theorem nodup_ofReport (project base : String) (report : Report) :
    ((Listing.ofReport project base report).map Prod.fst).Nodup := by
  simp only [Listing.ofReport, Listing.ofEntries, List.map_map, Function.comp_def, List.map_id']
  exact Text.nodup_sortedDistinct _

/-! ## Writing in a directory of files -/

/-- The file that lists one rule. -/
def fileOf (files : FileLines) : Entry := .file (Text.Utf8.encode (fileText files).toList) false

/-- What stands below a directory that holds the files of a listing and nothing else. -/
def entryBelow? (listing : Listing) (names : List String) : Option Entry :=
  listing.findSome? fun (name, files) =>
    if names = [name ++ ".json"] then some (fileOf files) else none

theorem writeFile_eq_ok_iff :
    writeFile fs target name files = .ok after ↔
      isShowable files = true ∧
        fs.write (filePath target name) (Text.Utf8.encode (fileText files).toList) = .ok after := by
  rw [writeFile]
  cases isShowable files <;> simp

/-- Nothing but files that can be read stands below an address. -/
def HoldsFiles (fs : FileSystem) (address : Address) : Prop :=
  ∀ names entry, names ≠ [] → fs.find? (address ++ names) = some entry →
    ∃ name bytes, names = [name] ∧ entry = .file bytes false

/-- In a directory of files the path of a rule's file leads to that file. -/
theorem HoldsFiles.address_of_filePath (holds : HoldsFiles fs address) (housed : fs.IsHoused)
    (begun : fs.hasDirectory (fs.startOf target) = true) (leads : fs.LeadsTo true target address)
    (named : IsRuleName name) {place : Address}
    (leadsFile : fs.LeadsTo true (filePath target name) place) :
    place = address ++ [name ++ ".json"] ∧
      filePath target name = target.child (name ++ ".json") := by
  obtain ⟨first, rest, spelled, proper, single⟩ := named.filePath target
  rw [spelled] at leadsFile ⊢
  obtain ⟨middle, fewer, leadsMiddle, -, further⟩ :=
    leadsFile.split housed begun (List.cons_ne_nil first rest)
  obtain rfl := leads.unique leadsMiddle
  obtain ⟨stay, up⟩ := isName_iff.mp proper
  cases further with
  | up => exact (up rfl).elim
  | stay => exact (stay rfl).elim
  | enter _ _ entered =>
      obtain ⟨locked, found⟩ := hasDirectory_iff.mp entered
      obtain ⟨_, _, -, file⟩ := holds [first] _ (by simp) found
      cases file
  | stop =>
      rw [single rfl]
      exact ⟨rfl, rfl⟩
  | jump _ _ link =>
      obtain ⟨_, _, -, file⟩ := holds [first] _ (by simp) link
      cases file

/-- A file of a rule that has been written in a directory: its path leads to it. -/
structure IsFiled (fs : FileSystem) (target : Path) (address : Address) (name : String) :
    Prop where
  path : filePath target name = target.child (name ++ ".json")
  whole : hasNull (filePath target name) = false
  leads : fs.LeadsTo true (filePath target name) (address ++ [name ++ ".json"])

theorem entryBelow?_append (first second : Listing) (names : List String) :
    entryBelow? (first ++ second) names =
      (entryBelow? first names).or (entryBelow? second names) := by
  simp [entryBelow?, List.findSome?_append]

theorem entryBelow?_eq_some {entry : Entry} (found : entryBelow? listing names = some entry) :
    ∃ name files, (name, files) ∈ listing ∧ names = [name ++ ".json"] ∧ entry = fileOf files := by
  rw [entryBelow?] at found
  obtain ⟨⟨name, files⟩, member, chosen⟩ := List.exists_of_findSome?_eq_some found
  simp only [Option.ite_none_right_eq_some, Option.some.injEq] at chosen
  exact ⟨name, files, member, chosen.1, chosen.2.symm⟩

theorem append_json_inj {other : String} (same : name ++ ".json" = other ++ ".json") :
    name = other := by
  have texts := congrArg String.toList same
  rw [String.toList_append, String.toList_append] at texts
  exact String.toList_inj.mp (List.append_cancel_right texts)

theorem entryBelow?_of_not_mem (unlisted : name ∉ listing.map Prod.fst) :
    entryBelow? listing [name ++ ".json"] = none := by
  cases found : entryBelow? listing [name ++ ".json"] with
  | none => rfl
  | some entry =>
      obtain ⟨other, files, member, same, -⟩ := entryBelow?_eq_some found
      have equal : name = other := append_json_inj (List.cons.inj same).1
      exact (unlisted (List.mem_map.mpr ⟨_, member, equal.symm⟩)).elim

/-- Each rule of a listing has its file. -/
theorem entryBelow?_of_mem (nodup : (listing.map Prod.fst).Nodup)
    (member : (name, files) ∈ listing) :
    entryBelow? listing [name ++ ".json"] = some (fileOf files) := by
  obtain ⟨before, after, rfl⟩ := List.append_of_mem member
  have unlisted : name ∉ before.map Prod.fst := by
    intro earlier
    rw [List.map_append, List.nodup_append] at nodup
    exact nodup.2.2 name earlier name (by simp) rfl
  rw [entryBelow?_append, entryBelow?_of_not_mem unlisted]
  simp [entryBelow?]

theorem entryBelow?_ne_none_iff (nodup : (listing.map Prod.fst).Nodup) {file : String} :
    entryBelow? listing [file] ≠ none ↔ ∃ entry ∈ listing, file = entry.1 ++ ".json" := by
  constructor
  · intro there
    obtain ⟨entry, found⟩ := Option.ne_none_iff_exists'.mp there
    obtain ⟨name, files, member, same, -⟩ := entryBelow?_eq_some found
    exact ⟨_, member, (List.cons.inj same).1⟩
  · rintro ⟨⟨name, files⟩, member, rfl⟩
    rw [entryBelow?_of_mem nodup member]
    simp

/-- The files of a listing have been put in a directory, in the places of those with their names. -/
structure Fills (fs : FileSystem) (target : Path) (address : Address) (written : Listing)
    (after : FileSystem) : Prop where
  filed : ∀ entry ∈ written, isShowable entry.2 = true ∧ IsFiled after target address entry.1
  inside : ∀ names, names ≠ [] → after.find? (address ++ names) =
    (entryBelow? written names).or (fs.find? (address ++ names))
  outside : ∀ other, isBelow address other = false → after.find? other = fs.find? other

theorem Fills.nothing (fs : FileSystem) (target : Path) (address : Address) :
    Fills fs target address [] fs :=
  ⟨by simp, fun _ _ => rfl, fun _ _ => rfl⟩

theorem HoldsFiles.filled {written : Listing} (holds : HoldsFiles fs address)
    (fills : Fills fs target address written after) : HoldsFiles after address := by
  intro names entry names_ne found
  rw [fills.inside names names_ne, Option.or_eq_some_iff] at found
  rcases found with put | ⟨-, stood⟩
  · obtain ⟨name, files, -, rfl, rfl⟩ := entryBelow?_eq_some put
    exact ⟨_, _, rfl, rfl⟩
  · exact holds names entry names_ne stood

/-- In a directory of files a rule's file is put in its place, and nothing else is changed. -/
theorem HoldsFiles.write (holds : HoldsFiles fs address) (housed : fs.IsHoused)
    (begun : fs.hasDirectory (fs.startOf target) = true) (leads : fs.LeadsTo true target address)
    (named : IsRuleName name) (stored : writeFile fs target name files = .ok after) :
    Fills fs target address [(name, files)] after := by
  obtain ⟨showable, written⟩ := writeFile_eq_ok_iff.mp stored
  obtain ⟨whole, -⟩ := write_eq_ok_iff.mp written
  obtain ⟨-, -, -, place, locked, leadsFile, leadsAfter, before, found, frame⟩ :=
    embeds_of_write housed (hasDirectory_startOf_below begun _) written
  obtain ⟨rfl, path⟩ := holds.address_of_filePath housed begun leads named leadsFile
  have unlocked : locked = false := by
    rcases before with ⟨-, unlocked⟩ | ⟨old, stood⟩
    · exact unlocked
    · obtain ⟨-, bytes, -, same⟩ := holds _ _ (by simp) stood
      exact (Entry.file.inj same).2
  subst unlocked
  constructor
  case filed =>
    intro entry member
    rw [List.mem_singleton.mp member]
    exact ⟨showable, path, whole, leadsAfter⟩
  case inside =>
    intro names names_ne
    rcases eq_or_ne names [name ++ ".json"] with rfl | differs
    · rw [found]
      simp [entryBelow?, fileOf]
    · rw [frame _ (by simpa using differs)]
      simp [entryBelow?, differs]
  case outside =>
    intro other outside
    apply frame
    rintro rfl
    rw [Bool.eq_false_iff] at outside
    exact outside (isBelow_iff.mpr ⟨_, by simp, rfl⟩)

/-- A file is put in a directory before others. -/
theorem Fills.cons {next : FileSystem} {more : Listing}
    (first : Fills fs target address [(name, files)] next)
    (further : Fills next target address more after) (embeds : next.Embeds after)
    (current : after.current = next.current) (unlisted : name ∉ more.map Prod.fst) :
    Fills fs target address ((name, files) :: more) after := by
  have put : next.find? (address ++ [name ++ ".json"]) = some (fileOf files) := by
    rw [first.inside _ (by simp)]
    simp [entryBelow?]
  constructor
  case filed =>
    intro entry member
    rcases List.mem_cons.mp member with rfl | member
    · obtain ⟨showable, path, whole, leads⟩ := first.filed _ List.mem_cons_self
      refine ⟨showable, path, whole, leads.embed embeds current (.inr ?_)⟩
      intro gone
      cases gone.symm.trans put
    · exact further.filed entry member
  case inside =>
    intro names names_ne
    rw [further.inside names names_ne]
    rcases eq_or_ne names [name ++ ".json"] with rfl | differs
    · rw [entryBelow?_of_not_mem unlisted, put]
      simp [entryBelow?]
    · rw [first.inside names names_ne]
      simp [entryBelow?, differs]
  case outside =>
    intro other outside
    rw [further.outside other outside, first.outside other outside]

/-- Files of a listing have been written, each where its path leads. -/
structure Writes (fs : FileSystem) (target : Path) (written : Listing) (after : FileSystem) :
    Prop where
  housed : after.IsHoused
  current : after.current = fs.current
  embeds : fs.Embeds after
  frame : ∀ address, after.find? address = fs.find? address ∨
    ∃ entry ∈ written, after.LeadsTo true (filePath target entry.1) address
  filed : ∀ entry ∈ written, ∃ address bytes locked,
    after.LeadsTo true (filePath target entry.1) address ∧
      after.find? address = some (.file bytes locked)

theorem Writes.nothing (housed : fs.IsHoused) : Writes fs target [] fs :=
  ⟨housed, rfl, .refl fs, fun _ => .inl rfl, by simp⟩

/-- One file is written before others. -/
theorem Writes.cons {next : FileSystem} {more : Listing} (housed : fs.IsHoused)
    (begun : fs.hasDirectory (fs.startOf target) = true)
    (written : fs.write (filePath target name) (Text.Utf8.encode (fileText files).toList) =
      .ok next)
    (further : Writes next target more after) : Writes fs target ((name, files) :: more) after := by
  obtain ⟨-, current, embeds, place, locked, -, leads, -, found, frame⟩ :=
    embeds_of_write housed (hasDirectory_startOf_below begun _) written
  have leadsOn : after.LeadsTo true (filePath target name) place := by
    refine leads.embed further.embeds further.current (.inr ?_)
    intro gone
    cases gone.symm.trans found
  refine ⟨further.housed, further.current.trans current, embeds.trans further.embeds, ?_, ?_⟩
  · intro address
    rcases further.frame address with same | ⟨entry, member, leadsThere⟩
    · rcases eq_or_ne address place with rfl | differs
      · exact .inr ⟨(name, files), List.mem_cons_self, leadsOn⟩
      · exact .inl (same.trans (frame address differs))
    · exact .inr ⟨entry, List.mem_cons_of_mem _ member, leadsThere⟩
  · intro entry member
    rcases List.mem_cons.mp member with rfl | member
    · obtain ⟨bytes, lock, stands⟩ := further.embeds.file found
      exact ⟨place, bytes, lock, leadsOn, stands⟩
    · exact further.filed entry member

theorem writes_writeFiles (housed : fs.IsHoused)
    (begun : fs.hasDirectory (fs.startOf target) = true) :
    ∃ written, written <+: listing ∧
      Writes fs target written (writeFiles target ⟨fs, paths, none⟩ listing).fs ∧
      ((writeFiles target ⟨fs, paths, none⟩ listing).failure = none → written = listing ∧
        (writeFiles target ⟨fs, paths, none⟩ listing).paths =
          paths ++ listing.map fun entry => filePath target entry.1) := by
  induction listing generalizing fs paths with
  | nil => exact ⟨[], List.prefix_rfl, .nothing housed, by simp [writeFiles]⟩
  | cons entry listing induction =>
      obtain ⟨name, files⟩ := entry
      rw [writeFiles]
      cases filed : writeFile fs target name files with
      | error e => exact ⟨[], List.nil_prefix, .nothing housed, by simp⟩
      | ok next =>
          simp only
          obtain ⟨-, written⟩ := writeFile_eq_ok_iff.mp filed
          obtain ⟨houses, current, embeds, -⟩ :=
            embeds_of_write housed (hasDirectory_startOf_below begun _) written
          obtain ⟨more, start, further, rest⟩ :=
            @induction next (paths ++ [filePath target name]) houses
              (hasDirectory_startOf_of_embeds embeds current begun)
          refine ⟨(name, files) :: more, List.cons_prefix_cons.mpr ⟨rfl, start⟩,
            further.cons housed begun written, ?_⟩
          intro unfailed
          obtain ⟨rfl, whole⟩ := rest unfailed
          exact ⟨rfl, by simp [whole]⟩

/-- The files of a listing are written in a directory of files, up to the first that cannot be. -/
theorem HoldsFiles.writeFiles (holds : HoldsFiles fs address) (housed : fs.IsHoused)
    (begun : fs.hasDirectory (fs.startOf target) = true) (leads : fs.LeadsTo true target address)
    (room : fs.hasDirectory address = true) (named : ∀ entry ∈ listing, IsRuleName entry.1)
    (nodup : (listing.map Prod.fst).Nodup) :
    let filled := Results.writeFiles target ⟨fs, paths, none⟩ listing
    ∃ written, written <+: listing ∧ (filled.failure = none → written = listing) ∧
      Fills fs target address written filled.fs := by
  intro filled
  induction listing generalizing fs paths with
  | nil => exact ⟨[], List.prefix_rfl, fun _ => rfl, .nothing fs target address⟩
  | cons entry listing induction =>
      obtain ⟨name, files⟩ := entry
      obtain ⟨unlisted, distinct⟩ := List.nodup_cons.mp nodup
      cases stored : writeFile fs target name files with
      | error e =>
          have stops : filled = ⟨fs, paths, some e⟩ := by
            simp only [filled, Results.writeFiles, stored]
          rw [stops]
          exact ⟨[], List.nil_prefix, by simp, .nothing fs target address⟩
      | ok next =>
          have goesOn : filled =
              Results.writeFiles target ⟨next, paths ++ [filePath target name], none⟩ listing := by
            simp only [filled, Results.writeFiles, stored]
          obtain ⟨houses, current, embeds, -⟩ := embeds_of_write housed
            (hasDirectory_startOf_below begun _) (writeFile_eq_ok_iff.mp stored).2
          have first := holds.write housed begun leads (named _ List.mem_cons_self) stored
          have leadsOn := leads.embed_of_hasDirectory embeds current room
          have begunOn := hasDirectory_startOf_of_embeds embeds current begun
          obtain ⟨more, start, whole, further⟩ := @induction next
            (paths ++ [filePath target name]) (holds.filled first) houses begunOn leadsOn
            (embeds.hasDirectory room) (fun entry member => named _ (List.mem_cons_of_mem _ member))
            distinct
          obtain ⟨_, -, writes, -⟩ := @writes_writeFiles next target listing
            (paths ++ [filePath target name]) houses begunOn
          rw [goesOn]
          refine ⟨(name, files) :: more, List.cons_prefix_cons.mpr ⟨rfl, start⟩, ?_, ?_⟩
          · intro unfailed
            rw [whole unfailed]
          · apply first.cons further writes.embeds writes.current
            intro member
            exact unlisted ((start.map Prod.fst).subset member)

/-! ## Replacing a directory -/

/-- What is left of a directory of results once it has been replaced, up to the files that were
written. -/
structure Replaced (fs : FileSystem) (address : Address) (written : Listing) (after : FileSystem) :
    Prop where
  inside : ∀ names, names ≠ [] → after.find? (address ++ names) = entryBelow? written names
  outside : ∀ other, ¬address <+: other → after.find? other = fs.find? other

theorem replaced_eraseBelow (fs : FileSystem) (address : Address) :
    Replaced fs address [] (fs.eraseBelow address) := by
  constructor
  · intro names names_ne
    rw [find?_eraseBelow, isBelow_iff.mpr ⟨names, names_ne, rfl⟩]
    rfl
  · intro other outside
    rw [find?_eraseBelow, if_neg ?_]
    intro below
    exact outside (prefix_iff_eq_or_isBelow.mpr (.inr below))

/-- A directory that was emptied and removed is empty when it has been made again by a path that
does not start in it. -/
theorem replaced_remade (housed : fs.IsHoused) {removed : FileSystem}
    (removes : removed = (fs.eraseBelow address).erase address)
    (begun : removed.hasDirectory (removed.startOf target) = true)
    (leads : (fs.eraseBelow address).LeadsTo false target address)
    (room : fs.hasDirectory address = true) {fuel : Nat} {made : FileSystem × Option FileError}
    (same : removed.makeDirectories fuel target = made) :
    made.1.IsHoused ∧ Replaced fs address [] made.1 ∧
      (made.2 = none → made.1.LeadsTo true target address ∧
        made.1.hasDirectory address = true ∧
        made.1.hasDirectory (made.1.startOf target) = true) := by
  subst removes
  have emptied := replaced_eraseBelow fs address
  have houses := housed.eraseBelow address
  obtain ⟨locked, found⟩ := hasDirectory_iff.mp room
  have there : (fs.eraseBelow address).find? address = some (.directory locked) := by
    rw [find?_eraseBelow, not_isBelow_self]
    exact found
  have stands : (fs.eraseBelow address).hasDirectory address = true :=
    hasDirectory_iff.mpr ⟨locked, there⟩
  have empty : ∀ name, (fs.eraseBelow address).find? (address ++ [name]) = none :=
    fun name => emptied.inside [name] (by simp)
  have makes := (makes_makeDirectories ((fs.eraseBelow address).erase address) fuel target).1
  rw [same] at makes
  obtain ⟨housesMade, current, embeds, frame⟩ :=
    find?_remade houses begun leads stands empty makes
  refine ⟨housesMade, ⟨?_, ?_⟩, ?_⟩
  · intro names names_ne
    rw [frame _ (by simpa using names_ne)]
    exact emptied.inside names names_ne
  · intro other outside
    rw [frame other ?_]
    · exact emptied.outside other outside
    · rintro rfl
      exact outside List.prefix_rfl
  · intro unstopped
    rw [← same] at unstopped
    obtain ⟨place, leadsMade, inside⟩ :=
      leadsTo_of_makeDirectories (houses.erase empty) begun unstopped
    rw [same] at leadsMade inside
    have leadsBefore := leadsMade.embed_of_hasDirectory embeds current.symm inside
    obtain rfl := leadsBefore.unique (leads.followed_of_hasDirectory stands)
    exact ⟨leadsMade, inside, (makes.grows (houses.erase empty) begun).begun begun (.refl target)⟩

/-- An emptied directory is filled with the files of a listing, as far as nothing stops that. -/
theorem Replaced.writeFiles {ready : FileSystem} (emptied : Replaced fs address [] ready)
    (housed : ready.IsHoused) (begun : ready.hasDirectory (ready.startOf target) = true)
    (leads : ready.LeadsTo true target address) (room : ready.hasDirectory address = true)
    (named : ∀ entry ∈ listing, IsRuleName entry.1) (nodup : (listing.map Prod.fst).Nodup) :
    let filled := Results.writeFiles target ⟨ready, [], none⟩ listing
    ∃ written, written <+: listing ∧ Replaced fs address written filled.fs ∧
      (filled.failure = none → written = listing ∧ filled.fs.IsHoused ∧
        filled.fs.LeadsTo true target address ∧ filled.fs.hasDirectory address = true) := by
  intro filled
  have holds : HoldsFiles ready address := by
    intro names entry names_ne found
    cases (emptied.inside names names_ne).symm.trans found
  obtain ⟨written, start, whole, fills⟩ := @HoldsFiles.writeFiles ready target address
    listing [] holds housed begun leads room named nodup
  obtain ⟨_, -, writes, -⟩ := @writes_writeFiles ready target listing [] housed begun
  refine ⟨written, start, ⟨?_, ?_⟩, ?_⟩
  · intro names names_ne
    rw [fills.inside names names_ne, emptied.inside names names_ne]
    exact Option.or_none
  · intro other outside
    rw [fills.outside other ?_]
    · exact emptied.outside other outside
    · rw [Bool.eq_false_iff]
      intro below
      exact outside (prefix_iff_eq_or_isBelow.mpr (.inr below))
  · intro unfailed
    exact ⟨whole unfailed, writes.housed,
      leads.embed_of_hasDirectory writes.embeds writes.current room,
      writes.embeds.hasDirectory room⟩

/-! ## Stages of a replacement -/

theorem clear_of_pathExists (there : fs.pathExists target = .ok true) :
    clear fs target = fs.removeTree target := by
  rw [clear, there]

theorem replace_of_stopped {cleared : FileSystem} {e : FileError}
    (clears : clear fs target = (cleared, some e)) (listing : Listing) :
    replace fs target listing = ⟨cleared, [], some e⟩ := by
  rw [replace, clears]

/-- After clearing, the directories are made and the listing is written, unless that is stopped
before. -/
theorem replace_cases {cleared : FileSystem} (clears : clear fs target = (cleared, none))
    (listing : Listing) :
    (hasNull target = true ∧ replace fs target listing = ⟨cleared, [], some .nullCharacter⟩) ∨
      (∃ ready e, cleared.makeDirectories (target.parts.length + 1) target = (ready, some e) ∧
        replace fs target listing = ⟨ready, [], some e⟩) ∨
      hasNull target = false ∧
        ∃ ready, cleared.makeDirectories (target.parts.length + 1) target = (ready, none) ∧
          replace fs target listing = writeFiles target ⟨ready, [], none⟩ listing := by
  cases null : hasNull target with
  | true =>
      refine .inl ⟨rfl, ?_⟩
      simp only [replace, clears, null, if_true]
  | false =>
      refine .inr ?_
      rcases making : cleared.makeDirectories (target.parts.length + 1) target with ⟨ready, e | _⟩
      · refine .inr ⟨rfl, ready, rfl, ?_⟩
        simp only [replace, clears, null, making, Bool.false_eq_true, if_false]
      · refine .inl ⟨ready, _, rfl, ?_⟩
        simp only [replace, clears, null, making, Bool.false_eq_true, if_false]

/-- The directory of a project that is there is emptied and filled with the listing, as far as
nothing stops that. -/
theorem replace_of_hasDirectory (housed : fs.IsHoused) (absolute : target.isAbsolute = true)
    (there : fs.pathExists target = .ok true) (leads : fs.LeadsTo false target address)
    (room : fs.hasDirectory address = true) (free : ¬fs.IsBarred address)
    (named : ∀ entry ∈ listing, IsRuleName entry.1) (nodup : (listing.map Prod.fst).Nodup) :
    ∃ written, written <+: listing ∧ Replaced fs address written (replace fs target listing).fs ∧
      ((replace fs target listing).failure = none → written = listing ∧
        (replace fs target listing).fs.IsHoused ∧
        (replace fs target listing).fs.LeadsTo true target address ∧
        (replace fs target listing).fs.hasDirectory address = true) := by
  obtain ⟨-, removal⟩ :=
    (removeTree_of_hasDirectory housed leads room).resolve_left fun ⟨barred, _⟩ => free barred
  rcases removal with ⟨stopped, same⟩ | ⟨removed, again, same⟩
  · obtain ⟨e, stopped⟩ := Option.ne_none_iff_exists'.mp stopped
    have clears : clear fs target = (fs.eraseBelow address, some e) := by
      rw [clear_of_pathExists there, ← same, ← stopped]
    rw [replace_of_stopped clears]
    exact ⟨[], List.nil_prefix, replaced_eraseBelow fs address, by simp⟩
  · have clears : clear fs target = ((fs.eraseBelow address).erase address, none) := by
      rw [clear_of_pathExists there, ← same, ← removed]
    have whole := (pathExists_eq_ok_true_iff.mp there).1
    rcases replace_cases clears listing with ⟨null, -⟩ | ⟨ready, e, making, result⟩ |
      ⟨-, ready, making, result⟩
    · rw [whole] at null
      contradiction
    · obtain ⟨-, emptied, -⟩ := replaced_remade housed rfl
        (hasDirectory_startOf_of_isAbsolute absolute) again room making
      rw [result]
      exact ⟨[], List.nil_prefix, emptied, by simp⟩
    · obtain ⟨houses, emptied, finished⟩ := replaced_remade housed rfl
        (hasDirectory_startOf_of_isAbsolute absolute) again room making
      obtain ⟨leadsReady, inside, begun⟩ := finished rfl
      rw [result]
      exact emptied.writeFiles houses begun leadsReady inside named nodup

/-- Nothing is written where a directory in that of a project cannot be read. -/
theorem replace_of_isBarred (housed : fs.IsHoused) (there : fs.pathExists target = .ok true)
    (leads : fs.LeadsTo false target address) (barred : fs.IsBarred address) :
    (replace fs target listing).failure ≠ none ∧
      fs.Remains address (replace fs target listing).fs := by
  have room := housed.hasDirectory_of_isBarred barred
  obtain ⟨-, stopped, remains⟩ :=
    (removeTree_of_hasDirectory housed leads room).resolve_right fun ⟨free, _⟩ => free barred
  obtain ⟨e, stopped⟩ := Option.ne_none_iff_exists'.mp stopped
  have clears : clear fs target = ((fs.removeTree target).1, some e) := by
    rw [clear_of_pathExists there, ← stopped]
  rw [replace_of_stopped clears]
  exact ⟨by simp, remains⟩

/-- Nothing is changed where the path of a project leads to something but names no directory. -/
theorem replace_of_not_hasDirectory (there : fs.pathExists target = .ok true)
    (outside : ∀ address, fs.LeadsTo false target address → fs.hasDirectory address = false) :
    (replace fs target listing).failure ≠ none ∧ (replace fs target listing).fs = fs := by
  obtain ⟨stopped, same⟩ := removeTree_of_not_hasDirectory outside
  obtain ⟨e, stopped⟩ := Option.ne_none_iff_exists'.mp stopped
  have clears : clear fs target = (fs, some e) := by
    rw [clear_of_pathExists there, Prod.ext_iff]
    exact ⟨same, stopped⟩
  rw [replace_of_stopped clears]
  exact ⟨by simp, rfl⟩

/-- Nothing is changed where it cannot be told whether the path of a project leads anywhere. -/
theorem replace_of_error {e : FileError} (unknown : fs.pathExists target = .error e) :
    (replace fs target listing).failure = some e ∧ (replace fs target listing).fs = fs := by
  have clears : clear fs target = (fs, some e) := by
    rw [clear, unknown]
  rw [replace_of_stopped clears]
  exact ⟨rfl, rfl⟩

/-- Where the path of a project leads nowhere, its directories are made and the listing is written,
as far as nothing stops that. -/
theorem replace_of_missing (housed : fs.IsHoused) (absolute : target.isAbsolute = true)
    (missing : fs.pathExists target = .ok false) :
    ∃ made written, Makes target fs made ∧ written <+: listing ∧
      Writes made target written (replace fs target listing).fs ∧
      ((replace fs target listing).failure = none → written = listing ∧
        ((replace fs target listing).paths = listing.map fun entry => filePath target entry.1) ∧
        ∃ address, (replace fs target listing).fs.LeadsTo true target address ∧
          (replace fs target listing).fs.hasDirectory address = true) := by
  have clears : clear fs target = (fs, none) := by
    rw [clear, missing]
  have makes := (makes_makeDirectories fs (target.parts.length + 1) target).1
  have begun : fs.hasDirectory (fs.startOf target) = true :=
    hasDirectory_startOf_of_isAbsolute absolute
  have grows := makes.grows housed begun
  have reaches := @leadsTo_of_makeDirectories fs (target.parts.length + 1) target housed begun
  rcases replace_cases clears listing with ⟨-, result⟩ | ⟨ready, e, making, result⟩ |
    ⟨-, ready, making, result⟩
  · rw [result]
    exact ⟨fs, [], .nothing, List.nil_prefix, Writes.nothing housed, by simp⟩
  · rw [making] at makes grows
    rw [result]
    exact ⟨ready, [], makes, List.nil_prefix, Writes.nothing grows.housed, by simp⟩
  · rw [making] at makes grows reaches
    obtain ⟨address, leads, inside⟩ := reaches rfl
    obtain ⟨written, start, writes, rest⟩ := @writes_writeFiles ready target listing []
      grows.housed (grows.begun begun (.refl target))
    rw [result]
    refine ⟨ready, written, makes, start, writes, ?_⟩
    intro unfailed
    obtain ⟨whole, paths⟩ := rest unfailed
    exact ⟨whole, paths, address,
      leads.embed_of_hasDirectory writes.embeds writes.current inside,
      writes.embeds.hasDirectory inside⟩

end Baseline.Results
