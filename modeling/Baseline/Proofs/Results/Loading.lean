import Baseline.Proofs.FileSystem.Walk
import Baseline.Proofs.Json.RoundTrip
import Baseline.Proofs.Results.Replacement
import Baseline.Proofs.Text.Utf8
import Mathlib.Data.List.Nodup

/-!
# How results are loaded

A file of a listing is read as the file lines that were written in it. A directory that holds the
files of a listing and nothing else is loaded as that listing, whose names come in the order of the
files.
-/

namespace Baseline.Results

open FileSystem

variable {fs : FileSystem} {target path : Path} {own address : Address} {listing loaded : Listing}
  {name : String} {names : List String} {files : FileLines}

/-! ## One file -/

/-- The name of a rule is read from the name of its file. -/
theorem stem_child (named : name ≠ "") : (target.child (name ++ ".json")).stem = name := by
  have spelled : (target.child (name ++ ".json")).name.toList =
      name.toList ++ '.' :: ['j', 's', 'o', 'n'] := by
    simp [Path.name, Path.child]
  rw [Path.stem, spelled, Path.stemAndSuffix_append (by simpa using named) (by simp) (by decide)]
  exact String.ofList_toList

theorem lines?_map_int (lines : List Int) : lines? (lines.map .int) = some lines := by
  rw [lines?, List.mapM_map]
  exact (List.mapM_pure).trans (congrArg some (List.map_id lines))

theorem fileLinesOf_map_memberOf (files : FileLines) :
    fileLinesOf (files.map Json.memberOf) = files := by
  induction files with
  | nil => rfl
  | cons entry files induction =>
      rw [fileLinesOf] at induction ⊢
      rw [List.map_cons, List.filterMap_cons]
      simp [Json.memberOf, lines?_map_int, induction]

theorem textOf_fileText (files : FileLines) :
    textOf (Text.Utf8.encode (fileText files).toList) = .ok (fileText files) := by
  have written : ∀ c ∈ (fileText files).toList, Json.IsWritten c := by
    rw [fileText, String.toList_ofList]
    intro c member
    rcases List.mem_append.mp member with object | feed
    · exact Json.isWritten_of_mem_writeFileLines object
    · exact .inr (List.mem_singleton.mp feed)
  refine Text.Utf8.textOf_encode _ fun member => ?_
  rcases written _ member with plain | same
  · exact absurd plain (by decide)
  · contradiction

/-- The file of a rule is loaded as the file lines that were written in it. -/
theorem loadFile_of_fileOf (whole : hasNull path = false) (leads : fs.LeadsTo true path address)
    (found : fs.find? address = some (fileOf files)) (nodup : (files.map Prod.fst).Nodup)
    (showable : isShowable files = true) : loadFile fs path = .ok (some files) := by
  have bytes : fs.read path = .ok (Text.Utf8.encode (fileText files).toList) := by
    rw [FileSystem.read, whole, leads.locate, found]
    rfl
  have lines : ∀ entry ∈ files, ∀ line ∈ entry.2, Number.isShowable line = true := by
    simpa [isShowable] using showable
  have object := Json.read_writeFileLines nodup lines
  have text : fs.readText path = .ok (fileText files) := by
    rw [readText, bytes]
    simp only [textOf_fileText]
    rfl
  rw [loadFile, text]
  simp only [fileText, object]
  simp only [Json.objectOf, fileLinesOf_map_memberOf]

/-! ## The files of a directory -/

/-- A name that is new, or put again with its own file lines, is one entry of the listing. -/
theorem mem_putName (nodup : (loaded.map Prod.fst).Nodup)
    (again : ∀ old, (name, old) ∈ loaded → old = files) :
    ((putName loaded name files).map Prod.fst).Nodup ∧
      ∀ entry, entry ∈ putName loaded name files ↔ entry ∈ loaded ∨ entry = (name, files) := by
  by_cases there : ∃ old, (name, old) ∈ loaded
  · obtain ⟨old, listed⟩ := there
    obtain rfl := again old listed
    have found : loaded.any (·.1 == name) = true :=
      List.any_eq_true.mpr ⟨_, listed, beq_self_eq_true name⟩
    have same : putName loaded name old = loaded := by
      rw [putName, if_pos found]
      conv_rhs => rw [← List.map_id loaded]
      apply List.map_congr_left
      intro entry member
      by_cases named : entry.1 = name
      · have equal := List.inj_on_of_nodup_map nodup member listed named
        simp [equal]
      · simp [named]
    rw [same]
    refine ⟨nodup, fun entry => ⟨.inl, ?_⟩⟩
    rintro (member | rfl)
    · exact member
    · exact listed
  · have fresh : ∀ entry ∈ loaded, entry.1 ≠ name := by
      rintro ⟨_, old⟩ listed rfl
      exact there ⟨old, listed⟩
    have absent : loaded.any (·.1 == name) = false := by
      rw [List.any_eq_false]
      intro entry member
      simpa using fresh entry member
    have appended : putName loaded name files = loaded ++ [(name, files)] := by
      simp [putName, absent]
    rw [appended]
    constructor
    · rw [List.map_append, List.nodup_append]
      refine ⟨nodup, by simp, ?_⟩
      intro first listed second single
      obtain ⟨entry, member, rfl⟩ := List.mem_map.mp listed
      rw [List.mem_singleton.mp single]
      exact fresh entry member
    · simp

/-- The files of rules are loaded under the names of the rules. -/
theorem loadFiles_of_forall (nodup : (listing.map Prod.fst).Nodup)
    (named : ∀ entry ∈ listing, entry.1 ≠ "")
    (loads : ∀ entry ∈ listing,
      loadFile fs (target.child (entry.1 ++ ".json")) = .ok (some entry.2))
    (distinct : (loaded.map Prod.fst).Nodup) (known : ∀ entry ∈ loaded, entry ∈ listing)
    (rules : ∀ name ∈ names, ∃ entry ∈ listing, name = entry.1 ++ ".json") :
    ∃ all, loadFiles fs loaded (names.map target.child) = .ok all ∧ (all.map Prod.fst).Nodup ∧
      ∀ entry, entry ∈ all ↔ entry ∈ loaded ∨ entry ∈ listing ∧ entry.1 ++ ".json" ∈ names := by
  induction names generalizing loaded with
  | nil => exact ⟨loaded, rfl, distinct, by simp⟩
  | cons name names induction =>
      obtain ⟨⟨entry, member, rfl⟩, further⟩ := List.forall_mem_cons.mp rules
      obtain ⟨rule, files⟩ := entry
      have own {other : String × FileLines} (listed : other ∈ listing) (same : other.1 = rule) :
          other = (rule, files) := List.inj_on_of_nodup_map nodup listed member same
      obtain ⟨put, each⟩ := @mem_putName loaded rule files distinct fun old listed =>
        (Prod.mk.inj (own (known _ listed) rfl)).2
      have knownPut : ∀ entry ∈ putName loaded rule files, entry ∈ listing := by
        intro entry listed
        rcases (each entry).mp listed with old | rfl
        · exact known entry old
        · exact member
      obtain ⟨all, loadsRest, nodupAll, eachAll⟩ := induction put knownPut further
      refine ⟨all, ?_, nodupAll, ?_⟩
      · rw [List.map_cons, loadFiles, loads _ member, stem_child (named _ member)]
        exact loadsRest
      · intro entry
        rw [eachAll, each, List.mem_cons]
        constructor
        · rintro ((old | rfl) | ⟨listed, later⟩)
          · exact .inl old
          · exact .inr ⟨member, .inl rfl⟩
          · exact .inr ⟨listed, .inr later⟩
        · rintro (old | ⟨listed, now | later⟩)
          · exact .inl (.inl old)
          · exact .inl (.inr (own listed (append_json_inj now)))
          · exact .inr ⟨listed, later⟩

/-! ## A whole directory -/

/-- The files of rules that a directory holds are found in it. -/
theorem exists_resultFiles (whole : hasNull target = false) (leads : fs.LeadsTo true target own)
    (room : fs.hasDirectory own = true)
    (readable : listing = [] ∨ fs.find? own = some (.directory false))
    (only : ∀ name, fs.find? (own ++ [name]) ≠ none ↔
      ∃ entry ∈ listing, name = entry.1 ++ ".json") :
    ∃ names : List String, resultFiles fs target = .ok (names.map target.child) ∧
      ∀ name, name ∈ names ↔ ∃ entry ∈ listing, name = entry.1 ++ ".json" := by
  have directory := isDirectory_eq_ok_true_iff.mpr ⟨whole, own, leads, room⟩
  obtain ⟨locked, found⟩ := hasDirectory_iff.mp room
  rw [resultFiles, directory]
  cases locked with
  | true =>
      have empty : listing = [] := by
        rcases readable with empty | unlocked
        · exact empty
        · cases found.symm.trans unlocked
      refine ⟨[], ?_, by simp [empty]⟩
      simp [list, leads.locate, found]
  | false =>
      have listed := list_eq_ok_iff.mpr ⟨own, leads, found, rfl⟩
      have each : ∀ name, name ∈ fs.names own ↔ ∃ entry ∈ listing, name = entry.1 ++ ".json" :=
        fun name => mem_names_iff_find?.trans (only name)
      have ends : ∀ name ∈ fs.names own, ".json".toList.isSuffixOf name.toList = true := by
        intro name member
        obtain ⟨entry, -, rfl⟩ := (each name).mp member
        rw [List.isSuffixOf_iff_suffix, String.toList_append]
        exact List.suffix_append _ _
      refine ⟨fs.names own, ?_, each⟩
      simp only [listed]
      rw [List.filter_eq_self.mpr ends]

/-- A directory that holds the files of a listing and nothing else is loaded as the listing. -/
theorem exists_load (whole : hasNull target = false) (leads : fs.LeadsTo true target own)
    (room : fs.hasDirectory own = true)
    (readable : listing = [] ∨ fs.find? own = some (.directory false))
    (only : ∀ name, fs.find? (own ++ [name]) ≠ none ↔
      ∃ entry ∈ listing, name = entry.1 ++ ".json")
    (nodup : (listing.map Prod.fst).Nodup) (named : ∀ entry ∈ listing, entry.1 ≠ "")
    (loads : ∀ entry ∈ listing,
      loadFile fs (target.child (entry.1 ++ ".json")) = .ok (some entry.2)) :
    ∃ loaded, load fs target = .ok loaded ∧ loaded.Perm listing := by
  obtain ⟨names, found, each⟩ := exists_resultFiles whole leads room readable only
  obtain ⟨loaded, loadsAll, distinct, members⟩ :=
    @loadFiles_of_forall fs target listing [] names nodup named loads List.nodup_nil (by simp)
      fun name member => (each name).mp member
  refine ⟨loaded, ?_, ?_⟩
  · rw [load, found]
    exact loadsAll
  · rw [List.perm_ext_iff_of_nodup distinct.of_map nodup.of_map]
    intro entry
    rw [members, each]
    simp only [List.not_mem_nil, false_or, and_iff_left_iff_imp]
    exact fun member => ⟨entry, member, rfl⟩

end Baseline.Results
