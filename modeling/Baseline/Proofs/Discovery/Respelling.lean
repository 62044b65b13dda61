import Baseline.Proofs.Discovery.Collection
import Baseline.Proofs.Discovery.Obstacles
import Baseline.Proofs.FileSystem.Respelling
import Baseline.Proofs.Glob.Meaning
import Mathlib.Data.List.TakeWhile

/-!
# Passes by way of two spellings of a directory

In a tree without links it makes no difference to a pass how its root is spelled, as long as no
spelling has two dots for a name: these are what hidden names look like to the standard exclusions,
which then leave out everything.
-/

namespace Baseline

open FileSystem

/-! ## Two dots -/

namespace Glob

variable {piece : List Char} {before after : List (List Char)} {cs first second : List Char}

/-- A piece that is not empty is kept between others. -/
theorem exists_withoutEmpty_append (piece_ne : piece ≠ []) :
    ∃ start rest, withoutEmpty (before ++ piece :: after) = start ++ piece :: rest := by
  induction before with
  | nil => exact ⟨[], _, withoutEmpty_cons_of_ne piece_ne after⟩
  | cons other before induction =>
      obtain ⟨start, rest, kept⟩ := induction
      rw [List.cons_append]
      by_cases empty : other = []
      · exact ⟨start, rest, by rw [empty, withoutEmpty_nil_cons (by simp), kept]⟩
      · exact ⟨other :: start, rest, by rw [withoutEmpty_cons_of_ne empty, kept]; rfl⟩

/-- Two dots between slashes are a segment. -/
theorem exists_segments_of_dots (cut : cs = first ++ ['/', '.', '.', '/'] ++ second) :
    ∃ start rest, segments cs = start ++ ['.', '.'] :: rest := by
  obtain ⟨head, tail, parted⟩ := exists_pieces_eq_cons (Text.replaceChar '\\' '/' first)
  have dots : Text.pieces '/' ('.' :: '.' :: '/' :: Text.replaceChar '\\' '/' second) =
      ['.', '.'] :: Text.pieces '/' (Text.replaceChar '\\' '/' second) := rfl
  have pieces : Text.pieces '/' (Text.replaceChar '\\' '/' cs) =
      head :: (tail ++ ['.', '.'] :: Text.pieces '/' (Text.replaceChar '\\' '/' second)) := by
    have replaced : Text.replaceChar '\\' '/' cs = Text.replaceChar '\\' '/' first ++
        '/' :: '.' :: '.' :: '/' :: Text.replaceChar '\\' '/' second := by
      rw [cut]
      simp [Text.replaceChar]
    rw [replaced, Text.pieces_append_cons, dots, parted, List.cons_append]
  obtain ⟨start, rest, kept⟩ := @exists_withoutEmpty_append ['.', '.'] tail
    (Text.pieces '/' (Text.replaceChar '\\' '/' second)) (by simp)
  refine ⟨head :: start, rest, ?_⟩
  rw [segments, pieces]
  simp only [kept, List.cons_append]

end Glob

/-- The rule of everything in a hidden directory. -/
def hiddenRule : Glob.Rule := ⟨"**/.*/**", ["**", ".*", "**"], true, false⟩

open Glob in
/-- The standard exclusions take two dots for a hidden directory. -/
theorem standardExclusions_of_dots {s : String} {first second : List Char}
    (cut : s.toList = first ++ ['/', '.', '.', '/'] ++ second) :
    standardExclusions.excludes s = true := by
  have standard : hiddenRule ∈ standardExclusions.rules := by decide +kernel
  obtain ⟨start, rest, segments⟩ := exists_segments_of_dots cut
  have dots : compared true ['.', '.'] = ".." := by decide +kernel
  have hidden : matchesName ".*" ".." = true := by decide +kernel
  -- The globstars take what is before the dots and what is after them.
  have covered : Covers ["**", ".*", "**"] (pathSegments true s) := by
    rw [pathSegments, segments, List.map_append, List.map_cons, dots]
    refine covers_cons_iff.mpr ⟨_, _, rfl, fits_globstar _, ?_⟩
    refine covers_cons_iff.mpr ⟨[".."], _, rfl, .inr ⟨"..", rfl, hidden⟩, ?_⟩
    exact covers_cons_iff.mpr
      ⟨_, [], (List.append_nil _).symm, fits_globstar _, covers_nil_iff.mpr rfl⟩
  refine List.any_eq_true.mpr ⟨hiddenRule, standard, ?_⟩
  rw [← namesOf_eq, ← matchesNames_iff_covers] at covered
  exact covered

/-- Two dots before other names are spelled between slashes. -/
theorem exists_text_of_dots {start : Root} {before more : List String} (absolute : start ≠ .none)
    (more_ne : more ≠ []) :
    ∃ first second, (Path.mk start (before ++ ".." :: more)).text.toList =
      first ++ ['/', '.', '.', '/'] ++ second := by
  have dots : "/".intercalate (".." :: more) = "../" ++ "/".intercalate more := by
    rw [← List.singleton_append, String.intercalate_append_of_ne_nil (by simp) more_ne]
    rfl
  rw [Path.text_mk absolute]
  rcases eq_or_ne before [] with rfl | before_ne
  · rw [List.nil_append, dots]
    cases start with
    | none => exact (absolute rfl).elim
    | single => exact ⟨[], ("/".intercalate more).toList, by simp [Root.text]⟩
    | double => exact ⟨['/'], ("/".intercalate more).toList, by simp [Root.text]⟩
  · rw [String.intercalate_append_of_ne_nil before_ne (by simp), dots]
    exact ⟨start.text.toList ++ ("/".intercalate before).toList, ("/".intercalate more).toList,
      by simp⟩

/-- Below a path with two dots for a name the standard exclusions leave out everything. -/
theorem standardExclusions_along {root : Path} {names : List String}
    (absolute : root.isAbsolute = true) (dots : ".." ∈ root.parts) (names_ne : names ≠ []) :
    standardExclusions.excludes (unixPath (root.along names).text) = true := by
  obtain ⟨before, after, parts⟩ := List.append_of_mem dots
  obtain ⟨first, second, spelled⟩ := @exists_text_of_dots root.root before (after ++ names)
    (bne_iff_ne.mp absolute) (by simp [names_ne])
  have whole : root.along names = ⟨root.root, before ++ ".." :: (after ++ names)⟩ := by
    rw [Path.along, parts]
    simp
  apply @standardExclusions_of_dots _ (Text.replaceChar '\\' '/' first)
    (Text.replaceChar '\\' '/' second)
  rw [whole, unixPath, String.toList_ofList, spelled]
  simp [Text.replaceChar]

/-! ## Two slashes -/

/-- A path is spelled with a character that is no slash of either kind. -/
def Path.HasLetter (path : Path) : Prop := ∃ c ∈ path.text.toList, c ≠ '/' ∧ c ≠ '\\'

/-- One more slash at its start does not change which names a path has. -/
theorem Path.parts_parse_slash (s : String) : (Path.parse ("/" ++ s)).parts = (Path.parse s).parts := by
  have cut : Text.splitAt '/' ("/" ++ s) = "" :: Text.splitAt '/' s := by
    rw [Text.splitAt, String.toList_append]
    rfl
  rw [parse, parse, cut, List.filter_cons]
  rfl

theorem Source.extension_slash (s : String) : Source.extension ("/" ++ s) = Source.extension s := by
  have slash : unixPath ("/" ++ s) = "/" ++ unixPath s := Discovery.unixPath_append "/" s
  rw [extension, extension, slash, Path.suffix, Path.suffix, Path.name, Path.name,
    Path.parts_parse_slash]

theorem Source.isCandidate_slash (s : String) :
    Source.isCandidate ("/" ++ s) = Source.isCandidate s := by
  unfold isCandidate isPlain isMarkup isData
  rw [extension_slash]

theorem Source.classify_slash (s content : String) :
    Source.classify ("/" ++ s) content = Source.classify s content := by
  unfold classify language? family isTyped isPlain isMarkup isData
  rw [extension_slash]

theorem Source.accepts_slash (limit : Int) (s content : String) :
    Source.accepts limit ("/" ++ s) content = Source.accepts limit s content := by
  have slash : unixPath ("/" ++ s) = "/" ++ unixPath s := Discovery.unixPath_append "/" s
  simp only [accepts, isMinifiedName, slash, Path.stem, Path.name, Path.parts_parse_slash]

theorem Glob.segments_slashes (cs : List Char) :
    segments ('/' :: '/' :: cs) = segments ('/' :: cs) :=
  congrArg ([] :: ·) (withoutEmpty_nil_cons (Text.piecesBy_ne_nil _ _))

/-- A glob takes two slashes at the start of a path for one. -/
theorem Glob.Matcher.excludes_slashes (matcher : Glob.Matcher) (s : String) :
    matcher.excludes ("/" ++ ("/" ++ s)) = matcher.excludes ("/" ++ s) := by
  have names (ignoresCase : Bool) : Glob.namesOf ignoresCase ("/" ++ ("/" ++ s)) =
      Glob.namesOf ignoresCase ("/" ++ s) := by
    rw [namesOf_eq, namesOf_eq, pathSegments, pathSegments]
    simp only [String.toList_append]
    exact congrArg _ (segments_slashes s.toList)
  simp only [excludes, Rule.matches, names]

namespace Discovery

variable {fs : FileSystem} {pass : Pass} {root path first second : Path} {names parts : List String}
  {family : Family} {file : SourceFile} {address : Address} {files : ProjectFiles}
  {exclusions : Exclusions} {role : Role} {found : Found} {paths : List Path}

theorem text_double (parts : List String) :
    (Path.mk .double parts).text = "/" ++ (Path.mk .single parts).text := by
  rw [Path.text_mk (by simp), Path.text_mk (by simp), ← String.append_assoc]
  rfl

theorem unixPath_text_double (parts : List String) :
    unixPath (Path.mk .double parts).text = "/" ++ unixPath (Path.mk .single parts).text := by
  rw [text_double, unixPath_append]
  rfl

theorem exists_unixPath_text_single (parts : List String) :
    ∃ rest, unixPath (Path.mk .single parts).text = "/" ++ rest := by
  rw [Path.text_mk (by simp), unixPath_append]
  exact ⟨_, rfl⟩

/-- A spelling that is not made of slashes alone keeps one more slash at its start. -/
theorem withoutFinalSlashes_slash {s : String} (other : ∃ c ∈ s.toList, c ≠ '/') :
    withoutFinalSlashes ("/" ++ s) = "/" ++ withoutFinalSlashes s := by
  have kept : s.toList.reverse.dropWhile (· == '/') ≠ [] := by
    rw [ne_eq, List.dropWhile_eq_nil_iff]
    intro slashes
    obtain ⟨c, member, noSlash⟩ := other
    exact noSlash (by simpa using slashes c (List.mem_reverse.mpr member))
  rw [← String.toList_inj]
  simp only [withoutFinalSlashes, String.toList_append, String.toList_ofList, List.reverse_append,
    List.dropWhile_append, List.isEmpty_iff, kept, if_false, List.reverse_reverse]

theorem rootLength_double (lettered : (Path.mk .single parts).HasLetter) :
    rootLength ⟨.double, parts⟩ = rootLength ⟨.single, parts⟩ + 1 := by
  have unix : ∃ c ∈ (unixPath (Path.mk .single parts).text).toList, c ≠ '/' := by
    obtain ⟨c, member, noSlash, noBackslash⟩ := lettered
    refine ⟨c, ?_, noSlash⟩
    simp only [unixPath, Text.replaceChar, String.toList_ofList, List.mem_map]
    exact ⟨c, member, by simp [noBackslash]⟩
  rw [rootLength, rootLength, unixPath_text_double, withoutFinalSlashes_slash unix,
    String.length_append]
  change 1 + _ + 1 = _
  omega

theorem slash_injective : Function.Injective fun s : String => "/" ++ s := by
  intro first second same
  rw [← String.toList_inj] at same ⊢
  simpa using same

theorem relativePath_slash (length : Nat) (s : String) :
    relativePath (length + 1) ("/" ++ s) = relativePath length s := by
  simp [relativePath]

/-- Two slashes at its start lead a path where one leads it. -/
theorem locate_double (fs : FileSystem) (last : Bool) (parts : List String) :
    fs.locate last ⟨.double, parts⟩ = fs.locate last ⟨.single, parts⟩ := rfl

theorem read_double_iff {bytes : List UInt8} :
    fs.read ⟨.double, parts⟩ = .ok bytes ↔ fs.read ⟨.single, parts⟩ = .ok bytes := by
  unfold FileSystem.read
  rw [locate_double]
  change (if hasNull ⟨.single, parts⟩ then _ else _) = _ ↔ _
  split
  · simp
  · split <;> simp

theorem excludes_double (exclusions : Exclusions) (parts : List String)
    (lettered : (Path.mk .single parts).HasLetter) (names : List String) :
    exclusions.excludes
        (relativePath (rootLength ⟨.double, parts⟩) (unixPath (Path.mk .double names).text))
        (unixPath (Path.mk .double names).text) =
      exclusions.excludes
        (relativePath (rootLength ⟨.single, parts⟩) (unixPath (Path.mk .single names).text))
        (unixPath (Path.mk .single names).text) := by
  obtain ⟨rest, spelled⟩ := exists_unixPath_text_single names
  rw [rootLength_double lettered, unixPath_text_double, relativePath_slash, Exclusions.excludes,
    Exclusions.excludes, spelled, Glob.Matcher.excludes_slashes]

/-- A pass that accepts scripts as is usual, and keeps no journal. -/
def careful (exclusions : Exclusions) (role : Role) : Pass :=
  ⟨exclusions, role, Source.accepts Source.standardSizeLimit, none⟩

theorem records_double_iff
    (lettered : (Path.mk .single parts).HasLetter) :
    Records fs (careful exclusions role) ⟨.double, parts⟩ family
        ⟨.double, names⟩ file ↔
      Records fs (careful exclusions role) ⟨.single, parts⟩ family
        ⟨.single, names⟩ file := by
  have excluded := excludes_double exclusions parts lettered names
  have candidate := Source.isCandidate_slash (unixPath (Path.mk .single names).text)
  have classified := Source.classify_slash (unixPath (Path.mk .single names).text) file.content
  have accepted := Source.accepts_slash Source.standardSizeLimit
    (unixPath (Path.mk .single names).text) file.content
  rw [← unixPath_text_double] at candidate classified accepted
  constructor
  · rintro ⟨included, source, ⟨bytes, read, content⟩, language, kept, own⟩
    exact ⟨excluded.symm.trans included, candidate.symm.trans source,
      ⟨bytes, read_double_iff.mp read, content⟩, classified.symm.trans language,
      fun script => accepted.symm.trans (kept script), own⟩
  · rintro ⟨included, source, ⟨bytes, read, content⟩, language, kept, own⟩
    exact ⟨excluded.trans included, candidate.trans source,
      ⟨bytes, read_double_iff.mpr read, content⟩, classified.trans language,
      fun script => accepted.trans (kept script), own⟩

/-! ## What a pass collects -/

/-- What a pass over a root collects in a family, by paths below the root; none if it is stopped. -/
def collected (fs : FileSystem) (pass : Pass) (root : Path) (family : Family) :
    Option (List (String × SourceFile)) :=
  let outcome := discover fs pass root ∅
  match outcome.failure with
  | some _ => none
  | none =>
    some ((outcome.files.group family).entries.map fun (key, file) =>
      (relativePath (rootLength (fs.fromRoot root)) key, file))

/-- A pass can list all that it comes to, and read all that it has to read. -/
def Completes (fs : FileSystem) (pass : Pass) (root : Path) : Prop :=
  (fs.walk root).stop = none ∧ ∀ path ∈ (fs.walk root).files, readError? fs pass root path = none

theorem visitAll_eq_none_iff (quiet : pass.journal = none) :
    (visitAll fs pass (rootLength root) found paths).2 = none ↔
      ∀ path ∈ paths, readError? fs pass root path = none := by
  induction paths generalizing found with
  | nil => simp [visitAll]
  | cons path paths induction =>
      have visited := @visit_cases fs pass root path found quiet
      rw [visitAll, List.forall_mem_cons]
      cases unread : readError? fs pass root path with
      | some e =>
          rw [unread] at visited
          simp [visited]
      | none =>
          rw [unread] at visited
          obtain ⟨after, visited⟩ := visited
          rw [visited]
          simpa using induction

theorem failure_scan_eq_none_iff (quiet : pass.journal = none) (files : ProjectFiles) :
    (scan fs pass root files).failure = none ↔ Completes fs pass root := by
  rw [failure_scan, Option.or_eq_none_iff, Option.map_eq_none_iff, visitAll_eq_none_iff quiet,
    and_comm]
  rfl

theorem discover_of_room (absolute : root.isAbsolute = true)
    (room : fs.isDirectory root = .ok true) :
    discover fs pass root files = scan fs pass root files := by
  rw [discover_of_expandHome (expandHome_of_isAbsolute absolute), fromRoot_of_isAbsolute absolute,
    discoverAt]
  simp only [pathExists_of_isDirectory room, room]

theorem collected_of_completes (quiet : pass.journal = none) (absolute : root.isAbsolute = true)
    (room : fs.isDirectory root = .ok true) (completes : Completes fs pass root) (family : Family) :
    collected fs pass root family =
      some ((firstOfEach [] (additions fs pass root family (fs.walk root).files)).map
        fun (key, file) => (relativePath (rootLength root) key, file)) := by
  have unfailed := (failure_scan_eq_none_iff quiet ∅).mpr completes
  obtain ⟨-, visited, gathered⟩ := scan_of_unfailed unfailed
  have nothing : ((∅ : ProjectFiles).group family).entries = [] := by cases family <;> rfl
  have whole : fs.fromRoot root = root := fromRoot_of_isAbsolute absolute
  rw [collected, discover_of_room absolute room]
  simp only [unfailed, gathered, files_visitAll quiet visited, entries_foldl_take, Keyed.keys,
    nothing, List.map_nil, List.nil_append, whole]

theorem collected_of_not_completes (quiet : pass.journal = none)
    (absolute : root.isAbsolute = true) (room : fs.isDirectory root = .ok true)
    (fails : ¬Completes fs pass root) (family : Family) :
    collected fs pass root family = none := by
  rw [← failure_scan_eq_none_iff quiet ∅] at fails
  obtain ⟨e, failed⟩ := Option.ne_none_iff_exists'.mp fails
  rw [collected, discover_of_room absolute room]
  simp only [failed]

/-! ### A root of two slashes -/

theorem record?_double
    (lettered : (Path.mk .single parts).HasLetter) :
    record? fs (careful exclusions role) ⟨.double, parts⟩ family
        ⟨.double, names⟩ =
      record? fs (careful exclusions role) ⟨.single, parts⟩ family
        ⟨.single, names⟩ := by
  ext file
  rw [record?_eq_some_iff, record?_eq_some_iff, records_double_iff lettered]

theorem readError?_double_iff
    (lettered : (Path.mk .single parts).HasLetter) :
    readError? fs (careful exclusions role) ⟨.double, parts⟩ ⟨.double, names⟩ = none ↔
      readError? fs (careful exclusions role) ⟨.single, parts⟩ ⟨.single, names⟩ = none := by
  have candidate : Source.isCandidate (unixPath (Path.mk .double names).text) =
      Source.isCandidate (unixPath (Path.mk .single names).text) := by
    rw [unixPath_text_double, Source.isCandidate_slash]
  simp only [readError?_eq_none_iff, careful, excludes_double exclusions parts lettered names, candidate,
    read_double_iff]

/-- Files collected below a root of two slashes have keys with one more slash. -/
theorem additions_double
    (lettered : (Path.mk .single parts).HasLetter)
    (below : List (List String)) :
    additions fs (careful exclusions role) ⟨.double, parts⟩ family
        (below.map (Path.mk .double parts).along) =
      (additions fs (careful exclusions role) ⟨.single, parts⟩ family
        (below.map (Path.mk .single parts).along)).map fun (key, file) => ("/" ++ key, file) := by
  rw [additions, additions, List.filterMap_map, List.filterMap_map, List.map_filterMap]
  congr 1
  funext names
  have record : record? fs (careful exclusions role) ⟨.double, parts⟩ family
      ⟨.double, parts ++ names⟩ = _ := record?_double lettered
  have key : unixPath (Path.mk .double (parts ++ names)).text = _ := unixPath_text_double _
  simp only [Function.comp_apply, Path.along, record, key, Option.map_map]
  rfl

theorem collected_double
    (lettered : (Path.mk .single parts).HasLetter)
    (share : fs.Share ⟨.double, parts⟩ ⟨.single, parts⟩ address)
    (whole : hasNull ⟨.single, parts⟩ = false) (family : Family) :
    collected fs (careful exclusions role) ⟨.double, parts⟩ family =
      collected fs (careful exclusions role) ⟨.single, parts⟩ family := by
  have room : fs.isDirectory ⟨.single, parts⟩ = .ok true :=
    isDirectory_eq_ok_true_iff.mpr ⟨whole, address, share.two.leads, share.two.room⟩
  have roomDouble : fs.isDirectory ⟨.double, parts⟩ = .ok true :=
    isDirectory_eq_ok_true_iff.mpr ⟨share.whole.trans whole, address, share.one.leads, share.one.room⟩
  obtain ⟨⟨below, -, files, filesToo⟩, stops⟩ :=
    @walkFrom_respells fs _ _ address (fs.entries.length + 1) share
  rw [← walk] at files filesToo stops
  rw [← walk] at stops
  -- Both walks meet the same names, so either pass is stopped or neither is.
  have completes : Completes fs (careful exclusions role) ⟨.double, parts⟩ ↔
      Completes fs (careful exclusions role) ⟨.single, parts⟩ := by
    rw [Completes, Completes, stops, files, filesToo, List.forall_mem_map, List.forall_mem_map]
    exact and_congr_right fun _ => forall₂_congr fun names _ => readError?_double_iff lettered
  by_cases done : Completes fs (careful exclusions role) ⟨.single, parts⟩
  · rw [collected_of_completes rfl rfl roomDouble (completes.mpr done),
      collected_of_completes rfl rfl room done, files, filesToo, additions_double lettered,
      rootLength_double lettered]
    have renamed := firstOfEach_map slash_injective []
      (additions fs (careful exclusions role) ⟨.single, parts⟩ family
        (below.map (Path.mk .single parts).along))
    rw [List.map_nil] at renamed
    simp only [renamed, List.map_map, Function.comp_def, relativePath_slash]
  · rw [collected_of_not_completes rfl rfl room done,
      collected_of_not_completes rfl rfl roomDouble (mt completes.mp done)]

/-! ### Spellings -/

/-- A text spells a directory from the root. -/
structure SpellsDirectory (fs : FileSystem) (s : String) (address : Address) : Prop where
  absolute : (Path.parse s).isAbsolute = true
  whole : hasNull (Path.parse s) = false
  leads : fs.LeadsTo true (Path.parse s) address
  room : fs.hasDirectory address = true

variable {s t : String}

theorem SpellsDirectory.isDirectory (spells : SpellsDirectory fs s address) :
    fs.isDirectory (Path.parse s) = .ok true :=
  isDirectory_eq_ok_true_iff.mpr ⟨spells.whole, address, spells.leads, spells.room⟩

theorem SpellsDirectory.share (plain : fs.IsPlain) (one : SpellsDirectory fs s address)
    (two : SpellsDirectory fs t address) : fs.Share (Path.parse s) (Path.parse t) address :=
  ⟨⟨plain, one.leads, one.room⟩, ⟨plain, two.leads, two.room⟩, one.whole.trans two.whole.symm⟩

/-- Without two dots the names of a spelling are those of the directory. -/
theorem SpellsDirectory.parts_eq (plain : fs.IsPlain) (spells : SpellsDirectory fs s address)
    (straight : ".." ∉ (Path.parse s).parts) : (Path.parse s).parts = address := by
  have leads := spells.leads
  rw [LeadsTo, startOf_of_isAbsolute spells.absolute] at leads
  rw [leads.address_eq plain.unlinked straight, List.nil_append, Path.parse, List.filter_filter]
  refine (List.filter_congr fun part _ => ?_).symm
  cases part == "." <;> simp_all [bne]

/-- A spelling with two dots collects nothing, whatever is there. -/
theorem collected_of_dots (plain : fs.IsPlain) (spells : SpellsDirectory fs s address)
    (standard : exclusions.standard = standardExclusions) (dots : ".." ∈ (Path.parse s).parts)
    (family : Family) :
    collected fs (careful exclusions role) (Path.parse s) family =
      if (fs.walk (Path.parse s)).stop = none then some [] else none := by
  obtain ⟨⟨below, below_ne, files, -⟩, -⟩ :=
    @walkFrom_respells fs _ _ address (fs.entries.length + 1) (spells.share plain spells)
  rw [← walk] at files
  have excluded {path : Path} (met : path ∈ (fs.walk (Path.parse s)).files) :
      exclusions.excludes (relativePath (rootLength (Path.parse s)) (unixPath path.text))
        (unixPath path.text) = true := by
    rw [files] at met
    obtain ⟨names, inside, rfl⟩ := List.mem_map.mp met
    rw [Exclusions.excludes, standard,
      standardExclusions_along spells.absolute dots (below_ne names inside), Bool.or_true]
  have unread : ∀ path ∈ (fs.walk (Path.parse s)).files,
      readError? fs (careful exclusions role) (Path.parse s) path = none := by
    intro path met
    rw [readError?_eq_none_iff]
    intro included
    cases (excluded met).symm.trans included
  have nothing : additions fs (careful exclusions role) (Path.parse s) family
      (fs.walk (Path.parse s)).files = [] := by
    rw [additions, List.filterMap_eq_nil_iff]
    intro path met
    rw [Option.map_eq_none_iff, Option.eq_none_iff_forall_ne_some]
    intro file recorded
    cases (excluded met).symm.trans (record?_eq_some_iff.mp recorded).included
  split
  · rename_i unstopped
    rw [collected_of_completes rfl spells.absolute spells.isDirectory ⟨unstopped, unread⟩, nothing]
    rfl
  · rename_i stopped
    exact collected_of_not_completes rfl spells.absolute spells.isDirectory (mt And.left stopped) _

/-- By way of two paths a pass collects the same. -/
def CollectsSame (fs : FileSystem) (pass : Pass) (first second : Path) : Prop :=
  ∀ family, collected fs pass first family = collected fs pass second family

/-- By way of two paths a pass collects nothing, or is stopped. -/
def CollectsNothing (fs : FileSystem) (pass : Pass) (first second : Path) : Prop :=
  (∀ family, collected fs pass first family = none ∧ collected fs pass second family = none) ∨
    ∀ family, collected fs pass first family = some [] ∧ collected fs pass second family = some []

theorem collectsSame_comm :
    CollectsSame fs pass first second ↔ CollectsSame fs pass second first :=
  forall_congr' fun _ => eq_comm

theorem collectsNothing_comm :
    CollectsNothing fs pass first second ↔ CollectsNothing fs pass second first :=
  or_congr (forall_congr' fun _ => and_comm) (forall_congr' fun _ => and_comm)

/-- Where nothing is collected by way of one path, the same is collected by way of both if nothing is
collected by way of either. -/
theorem collectsSame_iff_of_nothing {unstopped : Prop} [Decidable unstopped]
    (nothing : ∀ family, collected fs pass second family = if unstopped then some [] else none) :
    CollectsSame fs pass first second ↔ CollectsNothing fs pass first second := by
  by_cases listed : unstopped
  · simp only [listed, if_true] at nothing
    constructor
    · exact fun same => .inr fun family => ⟨(same family).trans (nothing family), nothing family⟩
    · rintro (each | each) family
      · cases (nothing family).symm.trans (each family).2
      · rw [(each family).1, (each family).2]
  · simp only [listed, if_false] at nothing
    constructor
    · exact fun same => .inl fun family => ⟨(same family).trans (nothing family), nothing family⟩
    · rintro (each | each) family
      · rw [(each family).1, (each family).2]
      · cases (nothing family).symm.trans (each family).2

/-- Spellings without two dots differ in their roots at most, and a pass collects the same by way of
them. -/
theorem collectsSame_of_straight (plain : fs.IsPlain) (one : SpellsDirectory fs s address)
    (two : SpellsDirectory fs t address) (straight : ".." ∉ (Path.parse s).parts)
    (straightToo : ".." ∉ (Path.parse t).parts)
    (apart : (Path.parse s).root = (Path.parse t).root ∨
      (Path.parse s).HasLetter) :
    CollectsSame fs (careful exclusions role) (Path.parse s) (Path.parse t) := by
  intro family
  have share := one.share plain two
  have shareToo := two.share plain one
  have whole := one.whole
  have wholeToo := two.whole
  have absolute := one.absolute
  have absoluteToo := two.absolute
  have parts := one.parts_eq plain straight
  have partsToo := two.parts_eq plain straightToo
  generalize Path.parse s = first at *
  generalize Path.parse t = second at *
  obtain ⟨start, names⟩ := first
  obtain ⟨other, others⟩ := second
  obtain rfl : names = others := parts.trans partsToo.symm
  -- The names are the same, and only the slashes before them may differ.
  cases start with
  | none => cases absolute
  | single =>
      cases other with
      | none => cases absoluteToo
      | single => rfl
      | double => exact (collected_double (apart.resolve_left (by simp)) shareToo whole family).symm
  | double =>
      cases other with
      | none => cases absoluteToo
      | single =>
          obtain ⟨c, member, noSlash, noBackslash⟩ := apart.resolve_left (by simp)
          refine collected_double ⟨c, ?_, noSlash, noBackslash⟩ share wholeToo family
          rw [text_double, String.toList_append] at member
          exact (List.mem_append.mp member).resolve_left (by simpa using noSlash)
      | double => rfl

/-- By way of spellings without two dots a pass collects the same, for any exclusions, unless just
one starts with two slashes and neither has a letter. With the standard exclusions it also does so
by way of spellings with two dots; if just one of them has two dots, only where nothing is
collected. -/
theorem collected_respelled (plain : fs.IsPlain) (one : SpellsDirectory fs s address)
    (two : SpellsDirectory fs t address) (exclusions : Exclusions) (role : Role) :
    let first := Path.parse s
    let second := Path.parse t
    let pass := careful exclusions role
    (".." ∉ first.parts → ".." ∉ second.parts →
      (first.root = second.root ∨ first.HasLetter) →
        CollectsSame fs pass first second) ∧
      (exclusions.standard = standardExclusions →
        (".." ∈ first.parts → ".." ∈ second.parts → CollectsSame fs pass first second) ∧
        (¬(".." ∈ first.parts ↔ ".." ∈ second.parts) →
          (CollectsSame fs pass first second ↔ CollectsNothing fs pass first second))) := by
  intro first second pass
  refine ⟨fun straight straightToo apart =>
    collectsSame_of_straight plain one two straight straightToo apart, fun standard => ⟨?_, ?_⟩⟩
  · intro dots dotsToo family
    have stops : (fs.walk first).stop = none ↔ (fs.walk second).stop = none :=
      (walkFrom_respells (one.share plain two)).stop
    rw [collected_of_dots plain one standard dots, collected_of_dots plain two standard dotsToo]
    simp only [stops, first, second]
  · intro apart
    by_cases dots : ".." ∈ second.parts
    · exact collectsSame_iff_of_nothing (collected_of_dots plain two standard dots)
    · have dotsToo : ".." ∈ first.parts := by
        by_contra straight
        exact apart (iff_of_false straight dots)
      rw [collectsSame_comm, collectsNothing_comm]
      exact collectsSame_iff_of_nothing (collected_of_dots plain one standard dotsToo)

/-- A script in a directory. -/
def loneScript : FileSystem :=
  { entries := [(["w"], .directory false), (["w", "p"], .directory false),
      (["w", "p", "a.js"], .file [] false)]
    current := ["w"]
    homes := [] }

theorem loneScript_isPlain : loneScript.IsPlain :=
  IsTree.isPlain (by decide) (by decide) (by decide)

theorem loneScript_spelled {s : String} (absolute : (Path.parse s).isAbsolute = true)
    (whole : hasNull (Path.parse s) = false)
    (located : loneScript.locate true (Path.parse s) =
      .ok ⟨["w", "p"], some (.directory false)⟩) : SpellsDirectory loneScript s ["w", "p"] :=
  ⟨absolute, whole, (locate_eq_ok_iff.mp located).1, by decide⟩

theorem loneScript_direct : SpellsDirectory loneScript "/w/p" ["w", "p"] :=
  loneScript_spelled (by decide +kernel) (by decide +kernel) (by decide +kernel)

theorem loneScript_detour : SpellsDirectory loneScript "/w/p/../p" ["w", "p"] :=
  loneScript_spelled (by decide +kernel) (by decide +kernel) (by decide +kernel)

theorem collected_respelled_loneScript :
    let first := Path.parse "/w/p"
    let second := Path.parse "/w/p/../p"
    let pass := careful (.forProject none none) .main
    loneScript.IsPlain ∧ SpellsDirectory loneScript "/w/p" ["w", "p"] ∧
      SpellsDirectory loneScript "/w/p/../p" ["w", "p"] ∧
      (".." ∉ first.parts → ".." ∉ second.parts →
        (first.root = second.root ∨ first.HasLetter) →
          CollectsSame loneScript pass first second) ∧
      ((Exclusions.forProject none none).standard = standardExclusions →
        (".." ∈ first.parts → ".." ∈ second.parts → CollectsSame loneScript pass first second) ∧
        (¬(".." ∈ first.parts ↔ ".." ∈ second.parts) →
          (CollectsSame loneScript pass first second ↔
            CollectsNothing loneScript pass first second))) :=
  ⟨loneScript_isPlain, loneScript_direct, loneScript_detour,
    collected_respelled loneScript_isPlain loneScript_direct loneScript_detour _ _⟩

/-- By way of the directory itself the script is collected, by way of a detour nothing is. -/
theorem loneScript_not_collectsSame :
    let pass := careful (.forProject none none) .main
    loneScript.IsPlain ∧ SpellsDirectory loneScript "/w/p" ["w", "p"] ∧
      SpellsDirectory loneScript "/w/p/../p" ["w", "p"] ∧
      collected loneScript pass (Path.parse "/w/p") .script =
        some [("a.js", ⟨"", .main, .javascript⟩)] ∧
      collected loneScript pass (Path.parse "/w/p/../p") .script = some [] ∧
      ¬CollectsSame loneScript pass (Path.parse "/w/p") (Path.parse "/w/p/../p") := by
  intro pass
  have found : collected loneScript pass (Path.parse "/w/p") .script =
      some [("a.js", ⟨"", .main, .javascript⟩)] := by
    decide +kernel
  have lost : collected loneScript pass (Path.parse "/w/p/../p") .script = some [] := by
    decide +kernel
  refine ⟨loneScript_isPlain, loneScript_direct, loneScript_detour, found, lost, ?_⟩
  intro same
  cases found.symm.trans ((same .script).trans lost)

end Discovery

end Baseline
