import Baseline.Proofs.FileSystem.Plain

/-!
# Two spellings of a directory

In a tree without links a path with more names leads to what these names lead to from where the path
leads. So walks by way of two paths to the same directory meet the same names.
-/

namespace Baseline

/-- The path with more names. -/
def Path.along (path : Path) (names : List String) : Path := ⟨path.root, path.parts ++ names⟩

namespace FileSystem

variable {fs : FileSystem} {first second : Path} {address : Address} {name : String}
  {one two other another : Walk} {fuel : Nat}

/-- Two paths lead to the same directory of a tree without links. -/
structure Share (fs : FileSystem) (first second : Path) (address : Address) : Prop where
  one : fs.Reaches first address
  two : fs.Reaches second address
  whole : hasNull first = hasNull second

theorem hasNull_child (path : Path) (name : String) :
    hasNull (path.child name) = (hasNull path || name.toList.contains '\x00') := by
  simp [hasNull, Path.child]

theorem Share.leadsToDirectory_eq (share : fs.Share first second address)
    (named : isName name = true) :
    fs.leadsToDirectory (first.child name) = fs.leadsToDirectory (second.child name) := by
  rw [Bool.eq_iff_iff, share.one.leadsToDirectory_iff named, share.two.leadsToDirectory_iff named,
    hasNull_child, hasNull_child, share.whole]

theorem Share.leadsToFile_eq (share : fs.Share first second address)
    (named : isName name = true) :
    fs.leadsToFile (first.child name) = fs.leadsToFile (second.child name) := by
  rw [Bool.eq_iff_iff, share.one.leadsToFile_iff named, share.two.leadsToFile_iff named,
    hasNull_child, hasNull_child, share.whole]

theorem Share.child (share : fs.Share first second address) (named : isName name = true)
    (found : fs.leadsToDirectory (first.child name) = true) :
    fs.Share (first.child name) (second.child name) (address ++ [name]) := by
  refine ⟨share.one.child named found, share.two.child named ?_, ?_⟩
  · rw [← share.leadsToDirectory_eq named, found]
  · rw [hasNull_child, hasNull_child, share.whole]

/-- A directory is listed alike, however it is spelled. -/
theorem Share.list_cases (share : fs.Share first second address) :
    (∃ fault, fs.list first = .error fault ∧ ∃ fault, fs.list second = .error fault) ∨
      fs.list first = .ok (fs.names address) ∧ fs.list second = .ok (fs.names address) := by
  have listed {path : Path} (reaches : fs.Reaches path address) : fs.list path =
      if fs.find? address = some (.directory false) then .ok (fs.names address)
      else .error .denied := by
    obtain ⟨locked, stands⟩ := hasDirectory_iff.mp reaches.room
    rw [list, reaches.leads.locate, stands]
    cases locked <;> rfl
  rw [listed share.one, listed share.two]
  split
  · exact .inr ⟨rfl, rfl⟩
  · exact .inl ⟨_, rfl, _, rfl⟩

/-! ## Walks -/

/-- Two walks meet the same names below two paths, and something stops either of them or none. -/
structure Walk.Respells (first second : Path) (one two : Walk) : Prop where
  files : ∃ below : List (List String),
    (∀ names ∈ below, names ≠ []) ∧
      one.files = below.map first.along ∧ two.files = below.map second.along
  stop : one.stop = none ↔ two.stop = none

theorem Walk.Respells.append (start : Respells first second one two)
    (rest : Respells first second other another) :
    Respells first second (one.append other) (two.append another) := by
  obtain ⟨before, beforeSome, files, filesToo⟩ := start.files
  obtain ⟨after, afterSome, more, moreToo⟩ := rest.files
  have stops := start.stop
  cases stopped : one.stop with
  | some stop =>
      cases stoppedToo : two.stop with
      | none => simp [stopped, stoppedToo] at stops
      | some another =>
          simp only [Walk.append, stopped, stoppedToo]
          exact start
  | none =>
      have stoppedToo := stops.mp stopped
      simp only [Walk.append, stopped, stoppedToo]
      refine ⟨⟨before ++ after, ?_, ?_, ?_⟩, rest.stop⟩
      · exact List.forall_mem_append.mpr ⟨beforeSome, afterSome⟩
      · rw [List.map_append, files, more]
      · rw [List.map_append, filesToo, moreToo]

theorem Walk.Respells.of_child
    (inside : Respells (first.child name) (second.child name) one two) :
    Respells first second one two := by
  obtain ⟨below, -, files, filesToo⟩ := inside.files
  have deeper (path : Path) : (path.child name).along = path.along ∘ (name :: ·) := by
    funext names
    simp [Path.along, Path.child]
  refine ⟨⟨below.map (name :: ·), by simp, ?_, ?_⟩, inside.stop⟩
  · rw [List.map_map, ← deeper, files]
  · rw [List.map_map, ← deeper, filesToo]

theorem Walk.Respells.foldl {names : List String} {walkOf otherOf : String → Walk}
    (start : Respells first second one two)
    (each : ∀ name ∈ names, Respells first second (walkOf name) (otherOf name)) :
    Respells first second (names.foldl (fun walk name => walk.append (walkOf name)) one)
      (names.foldl (fun walk name => walk.append (otherOf name)) two) := by
  induction names generalizing one two with
  | nil => exact start
  | cons name names induction =>
      obtain ⟨here, others⟩ := List.forall_mem_cons.mp each
      exact induction (start.append here) others

/-- Walks by way of two paths to the same directory meet the same names below them. -/
theorem walkFrom_respells (share : fs.Share first second address) :
    Walk.Respells first second (fs.walkFrom fuel first) (fs.walkFrom fuel second) := by
  induction fuel generalizing first second address with
  | zero => exact ⟨⟨[], by simp, rfl, rfl⟩, Iff.rfl⟩
  | succ fuel induction =>
      rcases share.list_cases with ⟨fault, listed, more, listedToo⟩ | ⟨listed, listedToo⟩
      · rw [walkFrom, walkFrom, listed, listedToo]
        exact ⟨⟨[], by simp, rfl, rfl⟩, by simp⟩
      · have plain := share.one.plain
        rw [walkFrom_succ plain listed, walkFrom_succ plain listedToo]
        have sameFiles : ∀ name ∈ fs.names address,
            fs.leadsToFile (first.child name) = fs.leadsToFile (second.child name) :=
          fun name member => share.leadsToFile_eq (plain.isName member)
        have sameDirectories : ∀ name ∈ fs.names address,
            fs.leadsToDirectory (first.child name) = fs.leadsToDirectory (second.child name) :=
          fun name member => share.leadsToDirectory_eq (plain.isName member)
        -- Now both walks go over the same names, first those of files and then those of directories.
        rw [← List.filter_congr sameFiles, ← List.filter_congr sameDirectories]
        refine .foldl ⟨⟨((fs.names address).filter fun name =>
          fs.leadsToFile (first.child name)).map ([·]), ?_, ?_, ?_⟩, Iff.rfl⟩ ?_
        · exact List.forall_mem_map.mpr fun _ _ => List.cons_ne_nil _ _
        · rw [List.map_map]
          rfl
        · rw [List.map_map]
          rfl
        · intro name member
          obtain ⟨listed, found⟩ := List.mem_filter.mp member
          exact (induction (share.child (plain.isName listed) found)).of_child

end FileSystem

end Baseline
