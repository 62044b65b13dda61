import Baseline.Proofs.FileSystem.Plain

/-!
# Trees in which results were written

Writing results puts files with the names of results, and makes directories where nothing stood; a
directory may also be removed and made again. In a tree without links, a walk after that meets the
files that it met before, in their order, but for those with the names of results.
-/

namespace Baseline.FileSystem

variable {fs after : FileSystem} {last : Bool} {links fuel : Nat} {directory path : Path}
  {here address place : Address} {name : String} {names : List String}

/-! ## What stands where -/

/-- Whether a file has the name of a file of results. -/
def isResultName (name : String) : Bool := ".json".toList.isSuffixOf name.toList

theorem isResultName_iff :
    isResultName name = true ↔ ∃ start, name.toList = start ++ ['.', 'j', 's', 'o', 'n'] := by
  rw [isResultName, List.isSuffixOf_iff_suffix]
  exact ⟨fun ⟨start, same⟩ => ⟨start, same.symm⟩, fun ⟨start, same⟩ => ⟨start, same.symm⟩⟩

theorem isName_of_isResultName (named : isResultName name = true) : isName name = true := by
  rw [isName_iff]
  constructor
  · rintro rfl
    contradiction
  · rintro rfl
    contradiction

/-- At an address there is nothing or a file. -/
def IsOpen (fs : FileSystem) (address : Address) : Prop :=
  ∀ entry, fs.find? address = some entry → ∃ bytes locked, entry = .file bytes locked

theorem IsOpen.hasDirectory (free : fs.IsOpen address) : fs.hasDirectory address = false := by
  rw [Bool.eq_false_iff]
  intro room
  obtain ⟨locked, found⟩ := hasDirectory_iff.mp room
  obtain ⟨bytes, lock, file⟩ := free _ found
  contradiction

/-- What stands at an address after results were written, and what stood there before. -/
inductive Settled (fs after : FileSystem) (address : Address) : Prop where
  | same (same : after.find? address = fs.find? address)
  | result {above : Address} {name : String} (spelled : address = above ++ [name])
      (named : isResultName name = true) (before : fs.IsOpen address) (now : after.IsOpen address)
  | made {above : Address} {name : String} (spelled : address = above ++ [name])
      (named : isName name = true) (absent : fs.find? address = none)
      (made : after.find? address = some (.directory false))
  | remade (room : fs.hasDirectory address = true)
      (again : after.find? address = some (.directory false))

/-- A directory stays one. -/
theorem Settled.hasDirectory (settled : Settled fs after address)
    (room : fs.hasDirectory address = true) : after.hasDirectory address = true := by
  cases settled with
  | same same =>
      rw [FileSystem.hasDirectory, same]
      exact room
  | result _ _ before =>
      rw [before.hasDirectory] at room
      contradiction
  | made _ _ absent =>
      rw [hasDirectory_of_absent absent] at room
      contradiction
  | remade _ again => exact hasDirectory_iff.mpr ⟨false, again⟩

/-- Nothing but results was written, in a tree without links. -/
structure Settles (fs after : FileSystem) : Prop where
  each : ∀ address, Settled fs after address
  current : after.current = fs.current
  homes : after.homes = fs.homes
  plain : after.IsPlain

theorem Settles.hasDirectory (settles : fs.Settles after) (room : fs.hasDirectory address = true) :
    after.hasDirectory address = true :=
  (settles.each address).hasDirectory room

/-- A directory that can be read can still be read. -/
theorem Settles.find?_directory (settles : fs.Settles after)
    (readable : fs.find? address = some (.directory false)) :
    after.find? address = some (.directory false) := by
  have room : fs.hasDirectory address = true := hasDirectory_iff.mpr ⟨false, readable⟩
  cases settles.each address with
  | same same => exact same.trans readable
  | result _ _ before =>
      rw [before.hasDirectory] at room
      contradiction
  | made _ _ absent => cases absent.symm.trans readable
  | remade _ again => exact again

/-- A directory stood there before, or nothing did and it can be read. -/
theorem Settles.of_hasDirectory (settles : fs.Settles after)
    (room : after.hasDirectory address = true) :
    fs.hasDirectory address = true ∨
      fs.find? address = none ∧ after.find? address = some (.directory false) := by
  cases settles.each address with
  | same same =>
      rw [FileSystem.hasDirectory, same] at room
      exact .inl room
  | result _ _ _ now =>
      rw [now.hasDirectory] at room
      contradiction
  | made _ _ absent made => exact .inr ⟨absent, made⟩
  | remade before => exact .inl before

/-- A file without the name of a result is what it was. -/
theorem Settles.find?_file_iff (settles : fs.Settles after) (kept : isResultName name = false)
    {bytes : List UInt8} {locked : Bool} :
    after.find? (address ++ [name]) = some (.file bytes locked) ↔
      fs.find? (address ++ [name]) = some (.file bytes locked) := by
  cases settles.each (address ++ [name]) with
  | same same => rw [same]
  | result spelled named =>
      obtain ⟨-, same⟩ := List.append_inj' spelled rfl
      obtain rfl := List.singleton_inj.mp same
      rw [kept] at named
      contradiction
  | made _ _ absent made => simp [absent, made]
  | remade room again =>
      refine iff_of_false (by simp [again]) fun found => ?_
      rw [hasDirectory_of_file found] at room
      contradiction

/-- A path to a directory leads to that directory. -/
theorem Reaches.settle (reaches : fs.Reaches path address) (settles : fs.Settles after) :
    after.Reaches path address := by
  have start : after.startOf path = fs.startOf path := startOf_of_current settles.current path
  refine ⟨settles.plain, ?_, settles.hasDirectory reaches.room⟩
  rw [LeadsTo, start]
  exact Leads.carry reaches.leads reaches.plain settles.plain.unlinked fun _ => settles.hasDirectory

/-- If nothing but results was written, the tree still is one without links. -/
theorem isPlain_of_settled (plain : fs.IsPlain) (each : ∀ address, Settled fs after address)
    (current : after.current = fs.current) (housed : after.IsHoused)
    (distinct : (after.entries.map Prod.fst).Nodup) : after.IsPlain := by
  refine ⟨?_, housed, ?_, ?_, distinct⟩
  · intro address name entry found
    cases each (address ++ [name]) with
    | same same => exact plain.named _ _ _ (same.symm.trans found)
    | result spelled named =>
        obtain ⟨-, same⟩ := List.append_inj' spelled rfl
        obtain rfl := List.singleton_inj.mp same
        exact isName_of_isResultName named
    | made spelled named =>
        obtain ⟨-, same⟩ := List.append_inj' spelled rfl
        obtain rfl := List.singleton_inj.mp same
        exact named
    | remade room =>
        obtain ⟨locked, stood⟩ := hasDirectory_iff.mp room
        exact plain.named _ _ _ stood
  · rw [current]
    exact (each fs.current).hasDirectory plain.started
  · intro address target link
    cases each address with
    | same same => exact plain.unlinked _ _ (same.symm.trans link)
    | result _ _ _ now =>
        obtain ⟨bytes, locked, file⟩ := now _ link
        contradiction
    | made _ _ _ made => cases made.symm.trans link
    | remade _ again => cases again.symm.trans link

/-! ## One step of a walk -/

/-- Walks that are not stopped meet their files one walk after the other. -/
theorem foldl_append_eq {walkOf : String → Walk} {start : List Path}
    (each : ∀ name ∈ names, (walkOf name).stop = none) :
    names.foldl (fun (walk : Walk) name => walk.append (walkOf name)) (Walk.ofFiles start) =
      Walk.ofFiles (start ++ names.flatMap fun name => (walkOf name).files) := by
  induction names generalizing start with
  | nil => simp
  | cons name names induction =>
      obtain ⟨here, others⟩ := List.forall_mem_cons.mp each
      have first : (Walk.ofFiles start).append (walkOf name) =
          .ofFiles (start ++ (walkOf name).files) := by
        rw [Walk.append, Walk.ofFiles, Walk.ofFiles, here]
      rw [List.foldl_cons, first, induction others, List.flatMap_cons, List.append_assoc]

/-- A walk that nothing stops could read its directory. -/
theorem Reaches.readable_of_unstopped (reaches : fs.Reaches directory address)
    (unstopped : (fs.walkFrom (fuel + 1) directory).stop = none) :
    fs.find? address = some (.directory false) := by
  cases listed : fs.list directory with
  | error fault => simp [walkFrom, listed] at unstopped
  | ok names =>
      obtain ⟨same, leads, found, -⟩ := list_eq_ok_iff.mp listed
      obtain rfl := reaches.leads.unique leads
      exact found

theorem Reaches.list_eq (reaches : fs.Reaches directory address)
    (readable : fs.find? address = some (.directory false)) :
    fs.list directory = .ok (fs.names address) :=
  list_eq_ok_iff.mpr ⟨address, reaches.leads, readable, rfl⟩

/-- The directories in a directory are walked through as well, and nothing stops that. -/
theorem Reaches.unstopped_child (reaches : fs.Reaches directory address)
    (unstopped : (fs.walkFrom (fuel + 1) directory).stop = none) :
    ∀ name ∈ (fs.names address).filter fun name => fs.leadsToDirectory (directory.child name),
      (fs.walkFrom fuel (directory.child name)).stop = none := by
  have listed := reaches.list_eq (reaches.readable_of_unstopped unstopped)
  rw [walkFrom_succ reaches.plain listed] at unstopped
  intro name member
  have whole := (mem_files_foldl_append (fun name : Path => fs.walkFrom fuel name)
    (((fs.names address).filter fun name => fs.leadsToDirectory (directory.child name)).map
      directory.child) _ (by rw [List.foldl_map]; exact unstopped)).2.1
  exact whole _ (List.mem_map_of_mem member)

/-! ## What a walk meets besides results -/

/-- The files that a walk meets but for results. -/
def Walk.others (walk : Walk) : List Path := walk.files.filter fun path => !isResultName path.name

/-- A walk is not stopped, and meets the same files as another one but for results. -/
structure Walk.Agrees (walk before : Walk) : Prop where
  unstopped : walk.stop = none
  same : walk.others = before.others

theorem name_child (directory : Path) (name : String) : (directory.child name).name = name := by
  simp [Path.name, Path.child]

/-- A walk through a directory that can be read meets the files in it, and then what the walks
through the directories in it meet. -/
theorem Reaches.others_walkFrom (reaches : fs.Reaches directory address)
    (readable : fs.find? address = some (.directory false))
    (each : ∀ name ∈ (fs.names address).filter fun name =>
      fs.leadsToDirectory (directory.child name),
      (fs.walkFrom fuel (directory.child name)).stop = none) :
    (fs.walkFrom (fuel + 1) directory).stop = none ∧
      (fs.walkFrom (fuel + 1) directory).others =
        ((fs.names address).filter fun name =>
          !isResultName name && fs.leadsToFile (directory.child name)).map directory.child ++
        ((fs.names address).filter fun name => fs.leadsToDirectory (directory.child name)).flatMap
          fun name => (fs.walkFrom fuel (directory.child name)).others := by
  rw [walkFrom_succ reaches.plain (reaches.list_eq readable), foldl_append_eq each]
  refine ⟨rfl, ?_⟩
  simp only [Walk.others, Walk.ofFiles, List.filter_append, List.filter_map, List.filter_filter,
    Function.comp_def, name_child, List.filter_flatMap]

/-! ## Whole walks -/

theorem IsHoused.find?_child (housed : fs.IsHoused) (absent : fs.find? address = none)
    (name : String) : fs.find? (address ++ [name]) = none := by
  cases found : fs.find? (address ++ [name]) with
  | none => rfl
  | some entry =>
      have room := housed address name entry found
      rw [hasDirectory_of_absent absent] at room
      contradiction

/-- A walk through a directory that was made meets nothing but results. -/
theorem Settles.walkFrom_made (settles : fs.Settles after) (housed : fs.IsHoused)
    (reaches : after.Reaches directory address) (absent : fs.find? address = none)
    (enough : (after.entriesBelow address).length < fuel) :
    (after.walkFrom fuel directory).Agrees (.ofFiles []) := by
  -- Where nothing stood, nothing stood below either: the directories in this one were made as well.
  induction fuel generalizing directory address with
  | zero => omega
  | succ fuel induction =>
      have empty := housed.find?_child absent
      have readable : after.find? address = some (.directory false) := by
        rcases settles.of_hasDirectory reaches.room with room | ⟨-, made⟩
        · rw [hasDirectory_of_absent absent] at room
          contradiction
        · exact made
      have deeper : ∀ name ∈ (after.names address).filter fun name =>
          after.leadsToDirectory (directory.child name),
          (after.walkFrom fuel (directory.child name)).Agrees (.ofFiles []) := by
        intro name member
        obtain ⟨member, found⟩ := List.mem_filter.mp member
        have child := reaches.child (reaches.plain.isName member) found
        have fewer := length_entriesBelow_lt child.room
        exact induction child (empty name) (by omega)
      have files : ((after.names address).filter fun name =>
          !isResultName name && after.leadsToFile (directory.child name)) = [] := by
        rw [List.filter_eq_nil_iff]
        intro name member kept
        simp only [Bool.and_eq_true, Bool.not_eq_true'] at kept
        obtain ⟨-, -, bytes, locked, found⟩ :=
          (reaches.leadsToFile_iff (reaches.plain.isName member)).mp kept.2
        rw [settles.find?_file_iff kept.1, empty name] at found
        contradiction
      obtain ⟨unstopped, others⟩ :=
        reaches.others_walkFrom readable fun name member => (deeper name member).unstopped
      refine ⟨unstopped, ?_⟩
      rw [others, files, List.flatMap_eq_nil_iff.mpr fun name member => (deeper name member).same]
      rfl

/-- The files in a directory that do not have the names of results are the same. -/
theorem Settles.filter_files (settles : fs.Settles after) (before : fs.Reaches directory address) :
    ((after.names address).filter fun name =>
        !isResultName name && after.leadsToFile (directory.child name)) =
      (fs.names address).filter fun name =>
        !isResultName name && fs.leadsToFile (directory.child name) := by
  have now := before.settle settles
  apply filter_names_eq before.plain settles.plain
  intro name named
  simp only [Bool.and_eq_true, Bool.not_eq_true', mem_names_iff_find?, now.leadsToFile_iff named,
    before.leadsToFile_iff named]
  constructor
  · rintro ⟨-, kept, whole, short, bytes, locked, found⟩
    rw [settles.find?_file_iff kept] at found
    exact ⟨by simp [found], kept, whole, short, bytes, locked, found⟩
  · rintro ⟨-, kept, whole, short, bytes, locked, found⟩
    rw [← settles.find?_file_iff kept] at found
    exact ⟨by simp [found], kept, whole, short, bytes, locked, found⟩

/-- The directories in a directory are those that there were, and new ones. -/
theorem Settles.filter_directories (settles : fs.Settles after)
    (before : fs.Reaches directory address) :
    ((after.names address).filter fun name =>
        fs.leadsToDirectory (directory.child name) && after.leadsToDirectory (directory.child name)) =
      (fs.names address).filter fun name => fs.leadsToDirectory (directory.child name) := by
  have now := before.settle settles
  apply filter_names_eq before.plain settles.plain
  intro name named
  simp only [Bool.and_eq_true, mem_names_iff_find?, now.leadsToDirectory_iff named,
    before.leadsToDirectory_iff named]
  constructor
  · rintro ⟨-, ⟨whole, short, room⟩, -⟩
    obtain ⟨locked, found⟩ := hasDirectory_iff.mp room
    exact ⟨by simp [found], whole, short, room⟩
  · rintro ⟨-, whole, short, room⟩
    have still := settles.hasDirectory room
    obtain ⟨locked, found⟩ := hasDirectory_iff.mp still
    exact ⟨by simp [found], ⟨whole, short, room⟩, whole, short, still⟩

/-- A directory in another one that was not there before has been made. -/
theorem Settles.walkFrom_child (settles : fs.Settles after) (before : fs.Reaches directory address)
    (named : isName name = true) (absent : fs.leadsToDirectory (directory.child name) = false)
    (found : after.leadsToDirectory (directory.child name) = true)
    (enough : (after.entriesBelow address).length ≤ fuel) :
    (after.walkFrom fuel (directory.child name)).Agrees (.ofFiles []) := by
  have now := before.settle settles
  obtain ⟨whole, short, room⟩ := (now.leadsToDirectory_iff named).mp found
  have fresh : fs.find? (address ++ [name]) = none := by
    rcases settles.of_hasDirectory room with stood | ⟨fresh, -⟩
    · rw [(before.leadsToDirectory_iff named).mpr ⟨whole, short, stood⟩] at absent
      contradiction
    · exact fresh
  have less := length_entriesBelow_lt room
  exact settles.walkFrom_made before.plain.housed (now.child named found) fresh
    (Nat.lt_of_lt_of_le less enough)

theorem flatMap_filter_of_nil {α β : Type} {keep : α → Bool} {f : α → List β} {l : List α}
    (none : ∀ a ∈ l, keep a = false → f a = []) : l.flatMap f = (l.filter keep).flatMap f := by
  induction l with
  | nil => rfl
  | cons a l induction =>
      obtain ⟨here, others⟩ := List.forall_mem_cons.mp none
      rw [List.flatMap_cons, induction others]
      cases kept : keep a with
      | true => rw [List.filter_cons_of_pos kept, List.flatMap_cons]
      | false => rw [List.filter_cons_of_neg (by simp [kept]), here kept, List.nil_append]

/-- A walk that nothing stopped is not stopped after results were written, and meets the same files
but for results. -/
theorem walkFrom_settled (settles : fs.Settles after) {fuelAfter : Nat}
    (before : fs.Reaches directory address) (unstopped : (fs.walkFrom fuel directory).stop = none)
    (enough : (fs.entriesBelow address).length < fuel)
    (enoughAfter : (after.entriesBelow address).length < fuelAfter) :
    (after.walkFrom fuelAfter directory).Agrees (fs.walkFrom fuel directory) := by
  induction fuel generalizing fuelAfter directory address with
  | zero => omega
  | succ fuel induction =>
      obtain ⟨fuelAfter, rfl⟩ : ∃ less, fuelAfter = less + 1 := ⟨fuelAfter - 1, by omega⟩
      have now := before.settle settles
      have readable := before.readable_of_unstopped unstopped
      have deeper := before.unstopped_child unstopped
      -- A directory in this one was there before, or it has been made.
      have old {name : String} (member : name ∈ after.names address)
          (found : fs.leadsToDirectory (directory.child name) = true) :
          (after.walkFrom fuelAfter (directory.child name)).Agrees
            (fs.walkFrom fuel (directory.child name)) := by
        have child := before.child (settles.plain.isName member) found
        obtain ⟨locked, stands⟩ := hasDirectory_iff.mp child.room
        have listedBefore : name ∈ fs.names address := mem_names_iff_find?.mpr (by simp [stands])
        have less := length_entriesBelow_lt child.room
        have lessAfter := length_entriesBelow_lt (settles.hasDirectory child.room)
        exact induction child (deeper name (List.mem_filter.mpr ⟨listedBefore, found⟩)) (by omega)
          (by omega)
      have fresh {name : String} (member : name ∈ after.names address)
          (absent : fs.leadsToDirectory (directory.child name) = false)
          (found : after.leadsToDirectory (directory.child name) = true) :=
        settles.walkFrom_child before (settles.plain.isName member) absent found
          (Nat.le_of_lt_succ enoughAfter)
      have each : ∀ name ∈ (after.names address).filter fun name =>
          after.leadsToDirectory (directory.child name),
          (after.walkFrom fuelAfter (directory.child name)).stop = none := by
        intro name kept
        obtain ⟨member, found⟩ := List.mem_filter.mp kept
        cases stood : fs.leadsToDirectory (directory.child name) with
        | true => exact (old member stood).unstopped
        | false => exact (fresh member stood found).unstopped
      obtain ⟨unstoppedAfter, others⟩ :=
        now.others_walkFrom (settles.find?_directory readable) each
      refine ⟨unstoppedAfter, ?_⟩
      rw [others, (before.others_walkFrom readable deeper).2, settles.filter_files before]
      congr 1
      rw [@flatMap_filter_of_nil _ _ fun name => fs.leadsToDirectory (directory.child name)]
      · rw [List.filter_filter, settles.filter_directories before]
        apply List.flatMap_congr
        intro name kept
        obtain ⟨member, found⟩ := List.mem_filter.mp kept
        have still := settles.hasDirectory
          ((before.leadsToDirectory_iff (before.plain.isName member)).mp found).2.2
        obtain ⟨locked, stands⟩ := hasDirectory_iff.mp still
        exact (old (mem_names_iff_find?.mpr (by simp [stands])) found).same
      · intro name kept absent
        obtain ⟨member, found⟩ := List.mem_filter.mp kept
        exact (fresh member absent found).same

/-- What holds of a walk to any depth that suffices holds of the walk. -/
theorem walk_settled (settles : fs.Settles after) (before : fs.Reaches directory address)
    (unstopped : (fs.walk directory).stop = none) :
    (after.walk directory).Agrees (fs.walk directory) :=
  walkFrom_settled settles before unstopped (Nat.lt_succ_of_le (List.length_filter_le _ _))
    (Nat.lt_succ_of_le (List.length_filter_le _ _))

/-- A file without the name of a result is read as it was. -/
theorem Under.read_eq (under : fs.Under directory path) (settles : fs.Settles after)
    (before : fs.Reaches directory address) (kept : isResultName path.name = false) :
    after.read path = fs.read path := by
  induction under generalizing address with
  | @file directory names name listed member file =>
      obtain ⟨same, leads, -, rfl⟩ := list_eq_ok_iff.mp listed
      obtain rfl := before.leads.unique leads
      have named := before.plain.isName member
      obtain ⟨-, short, bytes, locked, found⟩ := (before.leadsToFile_iff named).mp file
      rw [name_child] at kept
      have stands := (settles.find?_file_iff kept).mpr found
      have here := (before.child_iff named).mpr ⟨short, rfl⟩
      have there := ((before.settle settles).child_iff named).mpr ⟨short, rfl⟩
      rw [read, read, here.locate, there.locate, found, stands]
  | within listed member found real _ induction =>
      obtain ⟨same, leads, -, rfl⟩ := list_eq_ok_iff.mp listed
      obtain rfl := before.leads.unique leads
      exact induction (before.child (before.plain.isName member) found) kept

end Baseline.FileSystem
