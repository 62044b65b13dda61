import Baseline.Proofs.FileSystem.Plain
import Mathlib.Data.Bool.Basic
import Mathlib.Data.List.Lex
import Mathlib.Data.Prod.Basic

/-!
# The way a walk goes

A walk lists a directory, looks at its entries by name, and then goes through its subdirectories by
name. The itinerary is all that it would come to if nothing stopped it. Its order depends on names
alone, and the walk goes along it up to the first thing that stops it.
-/

namespace Baseline.FileSystem

variable {fs : FileSystem} {directory path : Path} {address : Address} {names : List String}
  {name : String} {fuel : Nat}

/-- What a walk comes to: a directory, which it lists, or an entry of one, which it looks at. -/
inductive Station where
  | directory (path : Path)
  | entry (path : Path)
  deriving DecidableEq, Repr

/-- A walk through a directory comes to a station if nothing stops it before. -/
inductive ComesTo (fs : FileSystem) : Path → Station → Prop where
  | start {directory : Path} : ComesTo fs directory (.directory directory)
  | entry {directory : Path} {names : List String} {name : String} :
      fs.list directory = .ok names → name ∈ names →
      ComesTo fs directory (.entry (directory.child name))
  | within {directory : Path} {names : List String} {name : String} {station : Station} :
      fs.list directory = .ok names → name ∈ names →
      fs.leadsToDirectory (directory.child name) = true →
      fs.isLink (directory.child name) = false →
      ComesTo fs (directory.child name) station → ComesTo fs directory station

/-- The files below a directory are those among the entries to which a walk comes. -/
theorem under_iff_comesTo :
    fs.Under directory path ↔
      fs.ComesTo directory (.entry path) ∧ fs.leadsToFile path = true := by
  constructor
  · intro under
    refine ⟨?_, under.leadsToFile⟩
    induction under with
    | file listed member _ => exact .entry listed member
    | within listed member found real _ induction => exact .within listed member found real induction
  · rintro ⟨comes, file⟩
    generalize reached : Station.entry path = station at comes
    induction comes with
    | start => cases reached
    | entry listed member =>
        cases reached
        exact .file listed member file
    | within listed member found real _ induction =>
        exact .within listed member found real (induction reached)

/-! ## The order of a walk -/

namespace Station

/-- The names down to a station, with the mark of a directory that is gone through. -/
def rank : Station → List (Bool × String)
  | .directory path => path.parts.map (true, ·)
  | .entry path =>
    path.parts.dropLast.map (true, ·) ++ path.parts.getLast?.toList.map (false, ·)

/-- A station comes before another one: a directory before what is in it, the entries of a directory
before what is in its subdirectories, and otherwise by name. -/
def IsBefore (first second : Station) : Prop :=
  List.Lex (Prod.Lex (· < ·) (· < ·)) first.rank second.rank

theorem rank_entry_child (directory : Path) (name : String) :
    (Station.entry (directory.child name)).rank =
      (Station.directory directory).rank ++ [(false, name)] := by
  simp [rank, Path.child]

theorem rank_directory_child (directory : Path) (name : String) :
    (Station.directory (directory.child name)).rank =
      (Station.directory directory).rank ++ [(true, name)] := by
  simp [rank, Path.child]

/-- What two stations share of their ranks does not matter. -/
theorem isBefore_of_append {station other : Station} {start more later : List (Bool × String)}
    (first : station.rank = start ++ more) (second : other.rank = start ++ later)
    (lex : List.Lex (Prod.Lex (· < ·) (· < ·)) more later) : station.IsBefore other := by
  rw [IsBefore, first, second]
  exact List.Lex.append_left _ lex start

theorem IsBefore.asymm {station other : Station} (before : station.IsBefore other) :
    ¬other.IsBefore station :=
  Std.Asymm.asymm (r := List.Lex (Prod.Lex (· < ·) (· < ·))) _ _ before

end Station

/-! ## Itineraries -/

/-- Whether a walk goes through what a path leads to. -/
def isEntered (fs : FileSystem) (path : Path) : Bool :=
  fs.leadsToDirectory path && !fs.isLink path

/-- All that a walk through a directory comes to, at most `fuel` directories deep, if nothing stops
it. A directory that cannot be listed is left again. -/
def itineraryFrom (fs : FileSystem) : Nat → Path → List Station
  | 0, _ => []
  | fuel + 1, directory =>
    .directory directory ::
      match fs.list directory with
      | .error _ => []
      | .ok names =>
        let paths := names.map directory.child
        paths.map .entry ++ (paths.filter fs.isEntered).flatMap (fs.itineraryFrom fuel)

/-- All that a walk through a directory comes to if nothing stops it. -/
def itinerary (fs : FileSystem) (directory : Path) : List Station :=
  fs.itineraryFrom (fs.entries.length + 1) directory

/-- From a directory that cannot be listed a walk comes to nothing else. -/
theorem comesTo_iff_of_unlisted {fault : FileFault} {station : Station}
    (unlisted : fs.list directory = .error fault) :
    fs.ComesTo directory station ↔ station = .directory directory := by
  constructor
  · intro comes
    cases comes with
    | start => rfl
    | entry listed => cases unlisted.symm.trans listed
    | within listed => cases unlisted.symm.trans listed
  · rintro rfl
    exact .start

/-- A walk that may go deep enough comes to the stations of its itinerary. -/
theorem mem_itineraryFrom_iff (tree : fs.IsTree) {station : Station}
    (leads : fs.LeadsTo true directory address)
    (enough : (fs.entriesBelow address).length < fuel) :
    station ∈ fs.itineraryFrom fuel directory ↔ fs.ComesTo directory station := by
  induction fuel generalizing directory address with
  | zero => omega
  | succ fuel induction =>
      rw [itineraryFrom, List.mem_cons]
      cases listed : fs.list directory with
      | error fault =>
          rw [comesTo_iff_of_unlisted listed, or_iff_left List.not_mem_nil]
      | ok names =>
          obtain ⟨same, leadsSame, -, rfl⟩ := list_eq_ok_iff.mp listed
          obtain rfl := leads.unique leadsSame
          -- Below a subdirectory there are fewer entries, so less fuel is enough there.
          have deeper : ∀ name ∈ fs.names address,
              fs.leadsToDirectory (directory.child name) = true →
              fs.isLink (directory.child name) = false →
              (station ∈ fs.itineraryFrom fuel (directory.child name) ↔
                fs.ComesTo (directory.child name) station) := by
            intro name member found real
            obtain ⟨entry, stored⟩ := mem_names_iff.mp member
            have named : isName name = true := by simpa using tree.named _ stored
            obtain ⟨below, room⟩ := leads.subdirectory tree named found real
            have fewer := length_entriesBelow_lt room
            exact induction below (by omega)
          simp only [List.mem_append, List.mem_flatMap, List.mem_filter, List.mem_map]
          constructor
          · rintro (rfl | ⟨_, ⟨name, member, rfl⟩, rfl⟩ | ⟨_, ⟨⟨name, member, rfl⟩, entered⟩, inside⟩)
            · exact .start
            · exact .entry listed member
            · obtain ⟨found, real⟩ : fs.leadsToDirectory (directory.child name) = true ∧
                  fs.isLink (directory.child name) = false := by simpa [isEntered] using entered
              exact .within listed member found real ((deeper name member found real).mp inside)
          · intro comes
            cases comes with
            | start => exact .inl rfl
            | entry again member =>
                cases listed.symm.trans again
                exact .inr (.inl ⟨_, ⟨_, member, rfl⟩, rfl⟩)
            | @within _ _ name _ again member found real inside =>
                cases listed.symm.trans again
                exact .inr (.inr ⟨_, ⟨⟨name, member, rfl⟩, by simp [isEntered, found, real]⟩,
                  (deeper name member found real).mpr inside⟩)

/-- An itinerary has exactly the stations to which the walk comes if nothing stops it. -/
theorem mem_itinerary_iff (tree : fs.IsTree) {station : Station} :
    station ∈ fs.itinerary directory ↔ fs.ComesTo directory station := by
  cases listed : fs.list directory with
  | error fault =>
      rw [itinerary, itineraryFrom, listed, List.mem_singleton, comesTo_iff_of_unlisted listed]
  | ok names =>
      obtain ⟨address, leads, -, -⟩ := list_eq_ok_iff.mp listed
      exact mem_itineraryFrom_iff tree leads (Nat.lt_succ_of_le (List.length_filter_le _ _))

/-! ## Itineraries are in order -/

theorem pairwise_names (distinct : (fs.entries.map Prod.fst).Nodup) (address : Address) :
    (fs.names address).Pairwise (· < ·) := by
  have ordered : (fs.names address).Pairwise (· ≤ ·) := Text.pairwise_sorted _
  refine ordered.imp₂ ?_ (nodup_names distinct address)
  intro first second least differs
  rw [← String.not_le]
  exact fun most => differs (String.le_antisymm least most)

theorem exists_rank_eq {station : Station} (member : station ∈ fs.itineraryFrom fuel directory) :
    ∃ more, station.rank = (Station.directory directory).rank ++ more := by
  induction fuel generalizing directory with
  | zero => cases member
  | succ fuel induction =>
      rw [itineraryFrom, List.mem_cons] at member
      rcases member with rfl | member
      · exact ⟨[], (List.append_nil _).symm⟩
      · cases listed : fs.list directory with
        | error fault => simp [listed] at member
        | ok names =>
            simp only [listed, List.mem_append, List.mem_flatMap, List.mem_filter, List.mem_map]
              at member
            rcases member with ⟨_, ⟨name, -, rfl⟩, rfl⟩ | ⟨_, ⟨⟨name, -, rfl⟩, -⟩, inside⟩
            · exact ⟨_, Station.rank_entry_child directory name⟩
            · obtain ⟨more, rank⟩ := induction inside
              refine ⟨(true, name) :: more, ?_⟩
              rw [rank, Station.rank_directory_child, List.append_assoc]
              rfl

/-- A station met in a subdirectory ranks with the name of that one after the directory. -/
theorem exists_rank_child_eq {station : Station}
    (member : station ∈ fs.itineraryFrom fuel (directory.child name)) :
    ∃ more, station.rank = (Station.directory directory).rank ++ (true, name) :: more := by
  obtain ⟨more, rank⟩ := exists_rank_eq member
  refine ⟨more, ?_⟩
  rw [rank, Station.rank_directory_child, List.append_assoc]
  rfl

/-- A walk comes to each station once, and to the ones that are before others first. -/
theorem pairwise_itineraryFrom (distinct : (fs.entries.map Prod.fst).Nodup) :
    (fs.itineraryFrom fuel directory).Pairwise Station.IsBefore := by
  induction fuel generalizing directory with
  | zero => exact .nil
  | succ fuel induction =>
      rw [itineraryFrom]
      cases listed : fs.list directory with
      | error fault => exact List.pairwise_singleton _ _
      | ok names =>
          obtain ⟨address, -, -, rfl⟩ := list_eq_ok_iff.mp listed
          have ascending := pairwise_names distinct address
          have entryRank (name : String) := Station.rank_entry_child directory name
          have directoryRank := (List.append_nil (Station.directory directory).rank).symm
          simp only [List.pairwise_cons, List.pairwise_append, List.pairwise_flatMap,
            List.filter_map, List.pairwise_map, List.mem_append, List.mem_flatMap, List.mem_map,
            List.map_map]
          refine ⟨?_, ?_, ⟨?_, ?_⟩, ?_⟩
          · -- The directory itself comes before all that is in it.
            rintro station (⟨name, -, rfl⟩ | ⟨_, ⟨name, -, rfl⟩, inside⟩)
            · exact Station.isBefore_of_append directoryRank (entryRank name) .nil
            · obtain ⟨more, rank⟩ := exists_rank_child_eq inside
              exact Station.isBefore_of_append directoryRank rank .nil
          · -- Its entries come by name.
            refine ascending.imp ?_
            intro first second less
            exact Station.isBefore_of_append (entryRank first) (entryRank second)
              (.rel (.right _ less))
          · exact fun _ _ => induction
          · -- What is in its subdirectories comes by the names of these.
            refine (ascending.filter _).imp ?_
            intro first second less station one other two
            obtain ⟨more, rank⟩ := exists_rank_child_eq one
            obtain ⟨later, otherRank⟩ := exists_rank_child_eq two
            exact Station.isBefore_of_append rank otherRank (.rel (.right _ less))
          · -- Its entries come before what is in its subdirectories.
            rintro _ ⟨name, -, rfl⟩ station ⟨_, ⟨other, -, rfl⟩, inside⟩
            obtain ⟨more, rank⟩ := exists_rank_child_eq inside
            exact Station.isBefore_of_append (entryRank name) rank (.rel (.left _ _ (by decide)))

/-! ## The walk along an itinerary -/

/-- The walk along stations up to the first that stops it. -/
def walkOver (fs : FileSystem) : List Station → Walk
  | [] => .ofFiles []
  | .directory path :: rest =>
    match fs.list path with
    | .error fault => ⟨[], some (.unlisted path fault)⟩
    | .ok _ => fs.walkOver rest
  | .entry path :: rest =>
    match fs.linkError? path with
    | some e => ⟨[], some (.unfollowed e)⟩
    | none =>
      (Walk.ofFiles (if fs.leadsToFile path then [path] else [])).append (fs.walkOver rest)

theorem Walk.append_assoc (first second third : Walk) :
    (first.append second).append third = first.append (second.append third) := by
  obtain ⟨files, _ | stop⟩ := first
  · obtain ⟨others, _ | stop⟩ := second
    · simp [Walk.append]
    · simp [Walk.append]
  · simp [Walk.append]

theorem walkOver_append (stations others : List Station) :
    fs.walkOver (stations ++ others) = (fs.walkOver stations).append (fs.walkOver others) := by
  induction stations with
  | nil => rfl
  | cons station stations induction =>
      cases station with
      | directory path =>
          rw [List.cons_append, walkOver, walkOver]
          cases fs.list path with
          | error fault => rfl
          | ok names => exact induction
      | entry path =>
          rw [List.cons_append, walkOver, walkOver]
          cases fs.linkError? path with
          | some e => rfl
          | none =>
              simp only
              rw [induction, Walk.append_assoc]

theorem walkOver_entries (paths : List Path) :
    fs.walkOver (paths.map .entry) = fs.walkAlong paths := by
  induction paths with
  | nil => rfl
  | cons path paths induction =>
      rw [List.map_cons, walkOver, walkAlong]
      cases fs.linkError? path with
      | some e => rfl
      | none => exact congrArg (Walk.append _) induction

/-- A walk goes along its itinerary. -/
theorem walkFrom_eq (fuel : Nat) (directory : Path) :
    fs.walkFrom fuel directory = fs.walkOver (fs.itineraryFrom fuel directory) := by
  induction fuel generalizing directory with
  | zero => rfl
  | succ fuel induction =>
      -- The fold over the subdirectories starts with the walk over the stations before them.
      have through (start : List Station) (paths : List Path) :
          paths.foldl (fun walk path => walk.append (fs.walkFrom fuel path)) (fs.walkOver start) =
            fs.walkOver (start ++ paths.flatMap (fs.itineraryFrom fuel)) := by
        induction paths generalizing start with
        | nil => simp
        | cons path paths rest =>
            rw [List.foldl_cons, induction path, ← walkOver_append, rest, List.flatMap_cons,
              List.append_assoc]
      rw [walkFrom, itineraryFrom, walkOver]
      cases listed : fs.list directory with
      | error fault => rfl
      | ok names =>
          simp only
          rw [← walkOver_entries, through]
          rfl

theorem walk_eq (fs : FileSystem) (directory : Path) :
    fs.walk directory = fs.walkOver (fs.itinerary directory) :=
  walkFrom_eq _ _

end Baseline.FileSystem
