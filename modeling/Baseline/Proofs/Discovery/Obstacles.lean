import Baseline.Proofs.Discovery.Additions

/-!
# What stops a pass

A pass over a directory is stopped at the first station of its walk that is in its way: a directory
that cannot be listed, a candidate that it does not leave out and that cannot be read, or a symbolic
link that cannot be followed because a name on its way is too long. Nothing else stops the walk. The
root itself may be missing, or below a home directory that is not known.
-/

namespace Baseline

namespace FileSystem

variable {fs : FileSystem} {last : Bool} {links fuel : Nat} {here : Address} {names : List String}
  {directory path : Path}

/-! ## Paths of which nothing can be told -/

/-- Only a name that is too long leaves open whether something is there. -/
theorem fault_of_follow {fault : FileFault}
    (stopped : fs.follow last links fuel here names = .error fault) :
    fault = .nameTooLong ∨ fault.saysAbsent = true := by
  fun_induction follow fs last links fuel here names with
  | case2 | case6 | case8 | case10 | case12 => cases stopped
  | case1 | case7 | case11 | case13 | case14 =>
      cases stopped
      exact .inr rfl
  | case5 =>
      cases stopped
      exact .inl rfl
  | case3 _ _ _ _ induction => exact induction stopped
  | case4 _ _ _ _ induction => exact induction stopped
  | case9 _ _ _ _ _ _ _ _ _ _ _ _ induction => exact induction stopped
  | case15 _ _ _ _ _ _ _ _ _ _ _ _ _ _ induction => exact induction stopped

theorem target?_eq_error_iff {error : FileError} :
    fs.target? path = .error error ↔
      hasNull path = false ∧ fs.locate true path = .error .nameTooLong ∧
        error = .fault .nameTooLong path := by
  unfold target?
  cases hasNull path with
  | true => simp
  | false =>
      cases located : fs.locate true path with
      | ok place => simp
      | error fault =>
          rcases fault_of_follow located with rfl | absent
          · simp [FileFault.saysAbsent, eq_comm]
          · have known : fault ≠ .nameTooLong := by
              rintro rfl
              cases absent
            simp [absent, known]

/-- What a path leads to is unknown only where a name on the way is too long. -/
theorem nameTooLong_of_map {α : Type} {look : Option Entry → α} {error : FileError}
    (unknown : (fs.target? path).map look = .error error) :
    fs.locate true path = .error .nameTooLong ∧ error = .fault .nameTooLong path := by
  cases target : fs.target? path with
  | ok entry => simp [target, Except.map] at unknown
  | error cause =>
      simp only [target, Except.map, Except.error.injEq] at unknown
      subst unknown
      exact (target?_eq_error_iff.mp target).2

theorem linkError?_eq_some_iff {error : FileError} :
    fs.linkError? path = some error ↔ fs.isLink path = true ∧ fs.isFile path = .error error := by
  unfold linkError?
  cases fs.isLink path <;> cases fs.isFile path <;> simp

theorem leadsToFile_of_mem_walkOver {stations : List Station}
    (met : path ∈ (fs.walkOver stations).files) :
    Station.entry path ∈ stations ∧ fs.leadsToFile path = true := by
  refine ⟨(files_walkOver_sublist stations).subset (List.mem_map_of_mem met), ?_⟩
  induction stations with
  | nil => cases met
  | cons station stations induction =>
      cases station with
      | directory other =>
          rw [walkOver] at met
          cases listed : fs.list other with
          | error fault => simp [listed] at met
          | ok names => exact induction (by simpa [listed] using met)
      | entry other =>
          rw [walkOver] at met
          cases broken : fs.linkError? other with
          | some e => simp [broken] at met
          | none =>
              cases file : fs.leadsToFile other with
              | false => exact induction (by simpa [broken, file, Walk.append, Walk.ofFiles] using met)
              | true =>
                  simp only [broken, file, if_true, Walk.append, Walk.ofFiles, List.singleton_append,
                    List.mem_cons] at met
                  rcases met with rfl | met
                  · exact file
                  · exact induction met

/-- Also a walk that is stopped meets only files below its directory. -/
theorem under_of_mem_files_walk (tree : fs.IsTree) (met : path ∈ (fs.walk directory).files) :
    fs.Under directory path := by
  rw [walk_eq] at met
  obtain ⟨member, file⟩ := leadsToFile_of_mem_walkOver met
  exact under_iff_comesTo.mpr ⟨(mem_itinerary_iff tree).mp member, file⟩

end FileSystem

/-- In a list in order the first result is that of an element before which there is none. -/
theorem List.findSome?_eq_some_iff_of_pairwise {α β : Type} {before : α → α → Prop}
    {f : α → Option β} {l : List α} {b : β} (ordered : l.Pairwise before)
    (asymm : ∀ x y, before x y → ¬before y x) :
    l.findSome? f = some b ↔
      ∃ x ∈ l, f x = some b ∧ ∀ earlier ∈ l, before earlier x → f earlier = none := by
  rw [List.findSome?_eq_some_iff]
  constructor
  · rintro ⟨start, x, rest, rfl, found, nothing⟩
    refine ⟨x, by simp, found, ?_⟩
    intro earlier member first
    -- An element that is before it cannot stand after it in the list.
    rw [List.pairwise_append, List.pairwise_cons] at ordered
    rcases List.mem_append.mp member with member | member
    · exact nothing earlier member
    · rcases List.mem_cons.mp member with rfl | member
      · exact (asymm _ _ first first).elim
      · exact (asymm _ _ first (ordered.2.1.1 earlier member)).elim
  · rintro ⟨x, member, found, nothing⟩
    obtain ⟨start, rest, rfl⟩ := List.append_of_mem member
    refine ⟨start, x, rest, rfl, found, ?_⟩
    intro earlier inside
    rw [List.pairwise_append] at ordered
    exact nothing earlier (by simp [inside]) (ordered.2.2 earlier inside x (by simp))

/-- Results that would be filtered away do not matter unless the first is one of them. -/
theorem List.findSome?_filter {α β : Type} {keep : β → Bool} {f : α → Option β} {l : List α}
    (first : ∀ b, l.findSome? f = some b → keep b = true) :
    (l.findSome? fun x => (f x).filter keep) = l.findSome? f := by
  induction l with
  | nil => rfl
  | cons x l induction =>
      rw [List.findSome?_cons] at first
      rw [List.findSome?_cons, List.findSome?_cons]
      cases found : f x with
      | none => exact induction (by simpa only [found] using first)
      | some b =>
          have kept : keep b = true := first b (by rw [found])
          rw [Option.filter_some_pos kept]

namespace Discovery

open FileSystem

variable {fs other : FileSystem} {pass : Pass} {root path : Path} {found : Found}
  {files : ProjectFiles} {station : Station} {error : DiscoveryError}

/-! ## Obstacles -/

/-- A pass over a root has to list or read what is at a station of its walk, and cannot. -/
inductive Unreadable (fs : FileSystem) (pass : Pass) (root : Path) :
    Station → DiscoveryError → Prop where
  /-- A directory that cannot be listed, whether or not it is left out. -/
  | unlisted {path : Path} {fault : FileFault} :
      fs.list path = .error fault →
      Unreadable fs pass root (.directory path) (.unreadable (unixPath path.text) fault.reason)
  /-- A candidate that is not left out and cannot be read. -/
  | unread {path : Path} {error : FileError} :
      fs.leadsToFile path = true →
      pass.exclusions.excludes (relativePath (rootLength root) (unixPath path.text))
        (unixPath path.text) = false →
      Source.isCandidate (unixPath path.text) = true → fs.read path = .error error →
      Unreadable fs pass root (.entry path) (.unreadable (unixPath path.text) (reasonOf error))

/-- What is at a station of its walk is in the way of a pass over a root. -/
inductive Obstacle (fs : FileSystem) (pass : Pass) (root : Path) :
    Station → DiscoveryError → Prop where
  | unreadable {station : Station} {error : DiscoveryError} :
      Unreadable fs pass root station error → Obstacle fs pass root station error
  /-- A symbolic link of which it cannot be told whether it leads to a file. -/
  | unfollowed {path : Path} {error : FileError} :
      fs.isLink path = true → fs.isFile path = .error error →
      Obstacle fs pass root (.entry path) (.file error)

/-- The error with which a pass cannot read the file at a path, if it reads the file at all. -/
def readError? (fs : FileSystem) (pass : Pass) (root path : Path) : Option DiscoveryError :=
  let absolute := unixPath path.text
  if pass.exclusions.excludes (relativePath (rootLength root) absolute) absolute then none
  else if !Source.isCandidate absolute then none
  else
    match fs.read path with
    | .error e => some (.unreadable absolute (reasonOf e))
    | .ok _ => none

/-- The error of the obstacle at a station, if there is one. -/
def obstacle? (fs : FileSystem) (pass : Pass) (root : Path) : Station → Option DiscoveryError
  | .directory path =>
    match fs.list path with
    | .error fault => some (.ofStop (.unlisted path fault))
    | .ok _ => none
  | .entry path =>
    match fs.linkError? path with
    | some e => some (.ofStop (.unfollowed e))
    | none => if fs.leadsToFile path then readError? fs pass root path else none

theorem readError?_eq_some_iff :
    readError? fs pass root path = some error ↔
      pass.exclusions.excludes (relativePath (rootLength root) (unixPath path.text))
          (unixPath path.text) = false ∧
        Source.isCandidate (unixPath path.text) = true ∧
        ∃ cause, fs.read path = .error cause ∧
          error = .unreadable (unixPath path.text) (reasonOf cause) := by
  simp only [readError?]
  generalize unixPath path.text = absolute
  cases pass.exclusions.excludes (relativePath (rootLength root) absolute) absolute <;>
    cases Source.isCandidate absolute <;> cases fs.read path <;> simp [@eq_comm _ error]

theorem readError?_eq_none_iff :
    readError? fs pass root path = none ↔
      (pass.exclusions.excludes (relativePath (rootLength root) (unixPath path.text))
          (unixPath path.text) = false →
        Source.isCandidate (unixPath path.text) = true → ∃ bytes, fs.read path = .ok bytes) := by
  simp only [readError?]
  generalize unixPath path.text = absolute
  cases pass.exclusions.excludes (relativePath (rootLength root) absolute) absolute <;>
    cases Source.isCandidate absolute <;> cases fs.read path <;> simp

theorem obstacle?_eq_some_iff :
    obstacle? fs pass root station = some error ↔ Obstacle fs pass root station error := by
  cases station with
  | directory path =>
      rw [obstacle?]
      constructor
      · intro blocked
        cases listed : fs.list path with
        | ok names => simp [listed] at blocked
        | error fault =>
            simp only [listed, Option.some.injEq] at blocked
            rw [← blocked]
            exact .unreadable (.unlisted listed)
      · rintro ⟨⟨listed⟩⟩
        rw [listed]
        rfl
  | entry path =>
      rw [obstacle?]
      constructor
      · intro blocked
        cases broken : fs.linkError? path with
        | some e =>
            simp only [broken, Option.some.injEq] at blocked
            obtain ⟨link, unknown⟩ := linkError?_eq_some_iff.mp broken
            rw [← blocked]
            exact .unfollowed link unknown
        | none =>
            simp only [broken, Option.ite_none_right_eq_some, readError?_eq_some_iff] at blocked
            obtain ⟨file, included, candidate, cause, read, rfl⟩ := blocked
            exact .unreadable (.unread file included candidate read)
      · intro blocked
        cases blocked with
        | unfollowed link unknown => rw [linkError?_eq_some_iff.mpr ⟨link, unknown⟩]; rfl
        | unreadable unreadable =>
            obtain - | ⟨file, included, candidate, read⟩ := unreadable
            have followed : fs.linkError? path = none := by
              rw [Option.eq_none_iff_forall_ne_some]
              intro e broken
              rw [leadsToFile, (linkError?_eq_some_iff.mp broken).2] at file
              cases file
            simp only [followed, file, if_true]
            exact readError?_eq_some_iff.mpr ⟨included, candidate, _, read, rfl⟩

/-! ## The first obstacle -/

theorem visit_cases (quiet : pass.journal = none) :
    match readError? fs pass root path with
    | some e => visit fs pass (rootLength root) found path = .error e
    | none => ∃ after, visit fs pass (rootLength root) found path = .ok after := by
  simp only [readError?, visit, quiet, Journal.after_none]
  generalize unixPath path.text = absolute
  cases pass.exclusions.excludes (relativePath (rootLength root) absolute) absolute <;>
    cases Source.isCandidate absolute <;> cases fs.read path <;> simp

/-- A pass along stations is stopped by the first obstacle among them. -/
theorem failure_along (quiet : pass.journal = none) (stations : List Station) (found : Found) :
    (visitAll fs pass (rootLength root) found (fs.walkOver stations).files).2.or
        ((fs.walkOver stations).stop.map .ofStop) =
      stations.findSome? (obstacle? fs pass root) := by
  -- What was found before has no part in this, so the induction is over any of it.
  induction stations generalizing found with
  | nil => rfl
  | cons station stations induction =>
      rw [List.findSome?_cons]
      cases station with
      | directory path =>
          rw [walkOver, obstacle?]
          cases fs.list path with
          | error fault => rfl
          | ok names => exact induction found
      | entry path =>
          rw [walkOver, obstacle?]
          cases fs.linkError? path with
          | some e => rfl
          | none =>
              cases fs.leadsToFile path with
              | false => exact induction found
              | true =>
                  have visited := @visit_cases fs pass root path found quiet
                  simp only [if_true, Walk.append, Walk.ofFiles, List.singleton_append]
                  rw [visitAll]
                  cases unread : readError? fs pass root path with
                  | some e =>
                      rw [unread] at visited
                      rw [visited]
                      rfl
                  | none =>
                      rw [unread] at visited
                      obtain ⟨after, visited⟩ := visited
                      rw [visited]
                      exact induction after

theorem failure_scan (fs : FileSystem) (pass : Pass) (root : Path) (files : ProjectFiles) :
    (scan fs pass root files).failure =
      (visitAll fs pass (rootLength root) { files } (fs.walk root).files).2.or
        ((fs.walk root).stop.map .ofStop) := by
  rw [scan]
  simp only
  split
  next stopped => exact stopped.symm
  next unstopped => exact unstopped.symm

theorem failure_scan_eq_findSome? (quiet : pass.journal = none) :
    (scan fs pass root files).failure = (fs.itinerary root).findSome? (obstacle? fs pass root) := by
  rw [failure_scan, walk_eq, failure_along quiet]

/-- The obstacles that are unreadable are those whose error is reported. -/
theorem unreadable_iff :
    Unreadable fs pass root station error ↔
      Obstacle fs pass root station error ∧ error.isReported = true := by
  constructor
  · intro unreadable
    refine ⟨.unreadable unreadable, ?_⟩
    cases unreadable <;> rfl
  · rintro ⟨blocked | _, reported⟩
    · exact blocked
    · cases reported

/-- An error is that of the first station of a walk at which there is one. -/
def IsFirst (fs : FileSystem) (root : Path) (blocks : Station → DiscoveryError → Prop)
    (error : DiscoveryError) : Prop :=
  ∃ station, fs.ComesTo root station ∧ blocks station error ∧
    ∀ earlier, fs.ComesTo root earlier → earlier.IsBefore station →
      ∀ other, ¬blocks earlier other

theorem isFirst_iff (tree : fs.IsTree) (distinct : (fs.entries.map Prod.fst).Nodup)
    {blocks : Station → DiscoveryError → Prop} {block? : Station → Option DiscoveryError}
    (decides : ∀ station error, block? station = some error ↔ blocks station error) :
    IsFirst fs root blocks error ↔ (fs.itinerary root).findSome? block? = some error := by
  have ordered : (fs.itinerary root).Pairwise Station.IsBefore := pairwise_itineraryFrom distinct
  rw [List.findSome?_eq_some_iff_of_pairwise ordered fun _ _ => Station.IsBefore.asymm]
  simp only [mem_itinerary_iff tree, decides, Option.eq_none_iff_forall_ne_some, ne_eq]
  rfl

/-! ## Passes that are stopped -/

/-- An error stops a pass over a root. -/
inductive Stops (fs : FileSystem) (pass : Pass) (root : Path) : DiscoveryError → Prop where
  | missing :
      fs.pathExists root = .ok false →
      Stops fs pass root (.unreadable (unixPath root.text) "directory not found")
  | noDirectory :
      fs.pathExists root = .ok true → fs.isDirectory root = .ok false →
      Stops fs pass root (.unreadable (unixPath root.text) "not a directory")
  /-- It cannot be told whether the root is there. -/
  | unknown {error : FileError} :
      fs.pathExists root = .error error → Stops fs pass root (.file error)
  | obstructed {error : DiscoveryError} :
      fs.isDirectory root = .ok true → IsFirst fs root (Obstacle fs pass root) error →
      Stops fs pass root error

/-- A pass over what a root spells fails with an error. -/
inductive Fails (fs : FileSystem) (pass : Pass) (root : Path) : DiscoveryError → Prop where
  /-- The home directory that the root names is not known. -/
  | homeless {error : PathError} :
      fs.expandHome root = .error error → Fails fs pass root (.home error)
  | stopped {expanded : Path} {error : DiscoveryError} :
      fs.expandHome root = .ok expanded → Stops fs pass (fs.fromRoot root) error →
      Fails fs pass root error

/-- A pass over a root fails exactly if the root is not there, is no directory, or has something
unreadable below it; then with the error of the first. -/
def FailsOnUnreadable (fs : FileSystem) (pass : Pass) (root : Path)
    (failure : Option DiscoveryError) : Prop :=
  ∀ error, failure = some error ↔
    fs.pathExists root ≠ .ok true ∧
        error = .unreadable (unixPath root.text) "directory not found" ∨
      fs.pathExists root = .ok true ∧ fs.isDirectory root ≠ .ok true ∧
        error = .unreadable (unixPath root.text) "not a directory" ∨
      fs.isDirectory root = .ok true ∧ IsFirst fs root (Unreadable fs pass root) error

/-- Whether a path leads to a directory is known where it is known whether it leads anywhere. -/
theorem pathExists_cases (fs : FileSystem) (path : Path) :
    (∃ error, fs.pathExists path = .error error ∧ fs.isDirectory path = .error error) ∨
      fs.pathExists path = .ok false ∧ fs.isDirectory path = .ok false ∨
      fs.pathExists path = .ok true ∧ ∃ found, fs.isDirectory path = .ok found := by
  unfold pathExists isDirectory
  rcases fs.target? path with error | _ | entry
  · exact .inl ⟨error, rfl, rfl⟩
  · exact .inr (.inl ⟨rfl, rfl⟩)
  · exact .inr (.inr ⟨rfl, _, rfl⟩)

theorem pathExists_of_isDirectory (room : fs.isDirectory path = .ok true) :
    fs.pathExists path = .ok true := by
  rcases pathExists_cases fs path with ⟨_, -, unknown⟩ | ⟨-, outside⟩ | ⟨there, -⟩
  · cases room.symm.trans unknown
  · cases room.symm.trans outside
  · exact there

/-- The errors with which a pass over an absolute root fails are those that stop it. -/
theorem failure_discoverAt_iff (tree : fs.IsTree) (distinct : (fs.entries.map Prod.fst).Nodup)
    (quiet : pass.journal = none) :
    (discoverAt fs pass root files).failure = some error ↔ Stops fs pass root error := by
  have scanned : (scan fs pass root files).failure = some error ↔
      IsFirst fs root (Obstacle fs pass root) error := by
    rw [failure_scan_eq_findSome? quiet, isFirst_iff tree distinct fun _ _ => obstacle?_eq_some_iff]
  constructor
  · intro failed
    rcases pathExists_cases fs root with ⟨cause, unknown, -⟩ | ⟨absent, -⟩ | ⟨there, _ | _, room⟩
    · simp only [discoverAt, unknown, Option.some.injEq] at failed
      exact failed ▸ .unknown unknown
    · simp only [discoverAt, absent, Option.some.injEq] at failed
      exact failed ▸ .missing absent
    · simp only [discoverAt, there, room, Option.some.injEq] at failed
      exact failed ▸ .noDirectory there room
    · simp only [discoverAt, there, room, scanned] at failed
      exact .obstructed room failed
  · intro stops
    cases stops with
    | missing absent => simp only [discoverAt, absent]
    | noDirectory there outside => simp only [discoverAt, there, outside]
    | unknown unknown => simp only [discoverAt, unknown]
    | obstructed room first =>
        simp only [discoverAt, pathExists_of_isDirectory room, room]
        exact scanned.mpr first

theorem failure_discover_iff (tree : fs.IsTree) (distinct : (fs.entries.map Prod.fst).Nodup)
    (quiet : pass.journal = none) :
    (discover fs pass root files).failure = some error ↔ Fails fs pass root error := by
  cases expands : fs.expandHome root with
  | error cause =>
      rw [discover, expands]
      constructor
      · intro failed
        cases failed
        exact .homeless expands
      · intro fails
        cases fails with
        | homeless unknown => cases expands.symm.trans unknown; rfl
        | stopped known => cases expands.symm.trans known
  | ok expanded =>
      rw [discover_of_expandHome expands, failure_discoverAt_iff tree distinct quiet]
      constructor
      · exact .stopped expands
      · intro fails
        cases fails with
        | homeless unknown => cases expands.symm.trans unknown
        | stopped _ stops => exact stops

/-- Where the first obstacle is reported, it is the first that is unreadable. -/
theorem isFirst_unreadable_iff (tree : fs.IsTree) (distinct : (fs.entries.map Prod.fst).Nodup)
    (known : ∀ error, IsFirst fs root (Obstacle fs pass root) error → error.isReported = true) :
    IsFirst fs root (Unreadable fs pass root) error ↔
      IsFirst fs root (Obstacle fs pass root) error := by
  have obstacles (error : DiscoveryError) : IsFirst fs root (Obstacle fs pass root) error ↔ _ :=
    isFirst_iff tree distinct fun _ _ => obstacle?_eq_some_iff
  -- What is unreadable are the obstacles whose errors are reported, and the first error is reported.
  have reported (station : Station) (error : DiscoveryError) :
      (obstacle? fs pass root station).filter DiscoveryError.isReported = some error ↔
        Unreadable fs pass root station error := by
    rw [Option.filter_eq_some_iff, obstacle?_eq_some_iff, unreadable_iff]
  rw [isFirst_iff tree distinct reported, obstacles, List.findSome?_filter]
  exact fun first found => known first ((obstacles first).mpr found)

/-- Where every error that stops it is reported, a pass over a root is stopped by the root or by the
first thing that is unreadable. -/
theorem stops_iff_of_known (tree : fs.IsTree) (distinct : (fs.entries.map Prod.fst).Nodup)
    (known : ∀ error, Stops fs pass root error → error.isReported = true) :
    Stops fs pass root error ↔
      fs.pathExists root ≠ .ok true ∧
          error = .unreadable (unixPath root.text) "directory not found" ∨
        fs.pathExists root = .ok true ∧ fs.isDirectory root ≠ .ok true ∧
          error = .unreadable (unixPath root.text) "not a directory" ∨
        fs.isDirectory root = .ok true ∧ IsFirst fs root (Unreadable fs pass root) error := by
  have sameFirst (room : fs.isDirectory root = .ok true) :
      IsFirst fs root (Unreadable fs pass root) error ↔
        IsFirst fs root (Obstacle fs pass root) error :=
    isFirst_unreadable_iff tree distinct fun error first => known error (.obstructed room first)
  constructor
  · intro stops
    cases stops with
    | missing absent => exact .inl ⟨by simp [absent], rfl⟩
    | noDirectory there outside => exact .inr (.inl ⟨there, by simp [outside], rfl⟩)
    | unknown unknown => cases known _ (.unknown unknown)
    | obstructed room first => exact .inr (.inr ⟨room, (sameFirst room).mpr first⟩)
  · rintro (⟨absent, rfl⟩ | ⟨there, outside, rfl⟩ | ⟨room, first⟩)
    · rcases pathExists_cases fs root with ⟨_, unknown, -⟩ | ⟨missing, -⟩ | ⟨there, -⟩
      · cases known _ (.unknown unknown)
      · exact .missing missing
      · exact (absent there).elim
    · rcases pathExists_cases fs root with ⟨_, unknown, -⟩ | ⟨missing, -⟩ | ⟨-, _ | _, found⟩
      · cases known _ (.unknown unknown)
      · cases missing.symm.trans there
      · exact .noDirectory there found
      · exact (outside found).elim
    · exact .obstructed room ((sameFirst room).mp first)

/-- Only a name that is too long stops a pass with an error that is not reported. -/
theorem nameTooLong_of_stops (stops : Stops fs pass root error)
    (unreported : error.isReported = false) :
    ∃ path, fs.locate true path = .error .nameTooLong ∧
      error = .file (.fault .nameTooLong path) := by
  cases stops with
  | missing | noDirectory => cases unreported
  | unknown unknown =>
      obtain ⟨located, rfl⟩ := nameTooLong_of_map unknown
      exact ⟨_, located, rfl⟩
  | obstructed _ first =>
      obtain ⟨station, -, ⟨unreadable⟩ | ⟨-, unknown⟩, -⟩ := first
      · cases (unreadable_iff.mp unreadable).2.symm.trans unreported
      · obtain ⟨located, rfl⟩ := nameTooLong_of_map unknown
        exact ⟨_, located, rfl⟩

/-- A pass fails exactly with the error that stops it. It fails on what is unreadable, and on that
alone, exactly if the root names no home directory that is not known and no path has a name that is
too long: the path of the root, or that of a link before the first thing that is unreadable. Files
that are left out or no candidates are never read. -/
theorem discover_stopped_iff (tree : fs.IsTree) (distinct : (fs.entries.map Prod.fst).Nodup)
    (exclusions : Exclusions) (role : Role) (accepts : Acceptance) (root : Path)
    (files : ProjectFiles) :
    let pass : Pass := ⟨exclusions, role, accepts, none⟩
    let whole := fs.fromRoot root
    let outcome := discover fs pass root files
    (∀ error, outcome.failure = some error ↔ Fails fs pass root error) ∧
      (FailsOnUnreadable fs pass whole outcome.failure ↔
        ∀ error, Fails fs pass root error → error.isReported = true) ∧
      (∀ error, Fails fs pass root error → error.isReported = false →
        (∃ path, fs.locate true path = .error .nameTooLong ∧
          error = .file (.fault .nameTooLong path)) ∨
        (∃ user rest, root = ⟨.none, String.ofList ('~' :: user) :: rest⟩ ∧
          fs.homes.lookup (String.ofList user) = none) ∧ error = .home .noHome) ∧
      ∀ other, fs.Alike other →
        (∀ path, fs.Under whole path → ReadsSame fs other pass (rootLength whole) path) →
        discover other pass root files = outcome := by
  intro pass whole outcome
  have stopped (error : DiscoveryError) : outcome.failure = some error ↔ Fails fs pass root error :=
    failure_discover_iff tree distinct rfl
  refine ⟨stopped, ⟨?_, ?_⟩, ?_, ?_⟩
  · -- Every error with which a pass fails on what is unreadable is reported.
    intro onUnreadable error fails
    rcases (onUnreadable _).mp ((stopped _).mpr fails) with ⟨-, rfl⟩ | ⟨-, -, rfl⟩ | ⟨-, first⟩
    · rfl
    · rfl
    · obtain ⟨station, -, unreadable, -⟩ := first
      exact (unreadable_iff.mp unreadable).2
  · intro known error
    cases expands : fs.expandHome root with
    | error cause => cases known _ (.homeless expands)
    | ok expanded =>
        rw [show outcome = _ from discover_of_expandHome expands,
          failure_discoverAt_iff tree distinct rfl]
        exact stops_iff_of_known tree distinct fun _ stops => known _ (.stopped expands stops)
  · intro error fails unreported
    cases fails with
    | homeless unknown =>
        obtain ⟨stranger, rfl⟩ := expandHome_eq_error_iff.mp unknown
        exact .inr ⟨stranger, rfl⟩
    | stopped _ stops => exact .inl (nameTooLong_of_stops stops unreported)
  · intro other alike same
    refine discover_of_alike alike rfl fun path met => ?_
    exact same path (under_of_mem_files_walk tree met)

/-- A directory of modules that may not be listed. -/
def lockedModules : FileSystem :=
  { entries := [(["w"], .directory false), (["w", "p"], .directory false),
      (["w", "p", "node_modules"], .directory true)]
    current := ["w"]
    homes := [] }

/-- The modules stop the pass, though it leaves out all that is in them. -/
theorem discover_stopped_iff_lockedModules :
    let whole := lockedModules.fromRoot (Path.parse "p")
    let outcome := discover lockedModules plainPass (Path.parse "p") ∅
    lockedModules.IsTree ∧ (lockedModules.entries.map Prod.fst).Nodup ∧
      outcome.failure = some (.unreadable "/w/p/node_modules" "Permission denied") ∧
      (∀ error, outcome.failure = some error ↔
        Fails lockedModules plainPass (Path.parse "p") error) ∧
      (FailsOnUnreadable lockedModules plainPass whole outcome.failure ↔
        ∀ error, Fails lockedModules plainPass (Path.parse "p") error → error.isReported = true) ∧
      (∀ error, Fails lockedModules plainPass (Path.parse "p") error → error.isReported = false →
        (∃ path, lockedModules.locate true path = .error .nameTooLong ∧
          error = .file (.fault .nameTooLong path)) ∨
        (∃ user rest, Path.parse "p" = ⟨.none, String.ofList ('~' :: user) :: rest⟩ ∧
          lockedModules.homes.lookup (String.ofList user) = none) ∧ error = .home .noHome) ∧
      ∀ other, lockedModules.Alike other →
        (∀ path, lockedModules.Under whole path →
          ReadsSame lockedModules other plainPass (rootLength whole) path) →
        discover other plainPass (Path.parse "p") ∅ = outcome := by
  have tree : lockedModules.IsTree := by decide
  have distinct : (lockedModules.entries.map Prod.fst).Nodup := by decide
  refine ⟨tree, distinct, by decide +kernel, ?_⟩
  exact discover_stopped_iff tree distinct _ _ _ (Path.parse "p") ∅

/-- A file system with nothing in it. -/
def bareRoot : FileSystem := { entries := [], current := [], homes := [] }

/-- A name of so many letters. -/
def nameOf (count : Nat) : String := String.ofList (List.replicate count 'n')

theorem utf8ByteSize_nameOf (count : Nat) : (nameOf count).utf8ByteSize = count := by
  induction count with
  | zero => rfl
  | succ count induction =>
      have longer : nameOf (count + 1) = String.ofList ['n'] ++ nameOf count := by
        rw [nameOf, nameOf, ← String.ofList_append]
        rfl
      rw [longer, String.utf8ByteSize_append, induction, Nat.add_comm]
      rfl

theorem hasNull_nameOf (root : Root) (count : Nat) : hasNull ⟨root, [nameOf count]⟩ = false := by
  simp [hasNull, nameOf]

/-- A name that is too long. -/
def longName : String := nameOf 300

theorem bareRoot_pathExists_longName :
    bareRoot.pathExists ⟨.single, [longName]⟩ =
      .error (.fault .nameTooLong ⟨.single, [longName]⟩) := by
  have size : longName.utf8ByteSize = 300 := utf8ByteSize_nameOf 300
  have named {name : String} (short : name.utf8ByteSize < 300) : longName ≠ name := by
    rintro rfl
    omega
  have located : bareRoot.locate true ⟨.single, [longName]⟩ = .error .nameTooLong := by
    rw [locate, stepLimit, follow.eq_5 _ _ _ _ _ _ _ (named (by decide)) (named (by decide)), size]
    rfl
  have whole : hasNull ⟨.single, [longName]⟩ = false := hasNull_nameOf _ _
  rw [pathExists, target?_eq_error_iff.mpr ⟨whole, located, rfl⟩]
  rfl

/-- No root is there under a name that is too long, and yet the pass does not report that. -/
theorem longName_not_failsOnUnreadable :
    let root : Path := ⟨.single, [longName]⟩
    let outcome := discover bareRoot plainPass root ∅
    bareRoot.IsTree ∧ bareRoot.pathExists root ≠ .ok true ∧
      outcome.failure = some (.file (.fault .nameTooLong root)) ∧
      ¬FailsOnUnreadable bareRoot plainPass root outcome.failure := by
  intro root outcome
  have unknown : bareRoot.pathExists root = .error (.fault .nameTooLong root) :=
    bareRoot_pathExists_longName
  have absent : bareRoot.pathExists root ≠ .ok true := by simp [unknown]
  have stopped : outcome.failure = some (.file (.fault .nameTooLong root)) := by
    have absolute : root.isAbsolute = true := rfl
    rw [show outcome = _ from discover_of_expandHome (expandHome_of_isAbsolute absolute),
      fromRoot_of_isAbsolute absolute, discoverAt]
    simp only [unknown]
  refine ⟨by decide, absent, stopped, ?_⟩
  intro fails
  have reported := (fails _).mpr (.inl ⟨absent, rfl⟩)
  rw [stopped] at reported
  cases reported

end Discovery

end Baseline
