import Baseline.CommandLine.Program
import Baseline.Proofs.Configuration.Loading
import Baseline.Proofs.FileSystem.Canonical

/-!
# Configurations that cannot be loaded

A configuration file that is there is found, whatever path names it. It then fails to be loaded by
the first thing that is wrong: it cannot be read or is no text, it is no document with a value, its
root is no map, or something is wrong with its fields. Some of these failures are refusals, which the
program answers with a message; the others break it off.
-/

namespace Baseline.Configuration

open FileSystem
open Yaml (Value Graph)

variable {fs : FileSystem} {name : String} {path file root expanded : Path}
  {address directory : Address} {bytes : List UInt8} {locked : Bool} {graph : Graph}
  {error : LoadError}

/-! ## The file that a path names -/

/-- A path names a configuration file: it leads to the file, or to a directory that has it. -/
structure NamesFile (fs : FileSystem) (path : Path) (address : Address) (bytes : List UInt8)
    (locked : Bool) : Prop where
  leads : ∃ expanded, fs.expandHome path = .ok expanded ∧
    (fs.LeadsTo true expanded address ∨
      ∃ directory, fs.LeadsTo true expanded directory ∧ fs.hasDirectory directory = true ∧
        fs.LeadsTo true (expanded.child fileName) address)
  found : fs.find? address = some (.file bytes locked)

theorem straight_expandHome (expands : fs.expandHome (.parse name) = .ok expanded) :
    "." ∉ expanded.parts := by
  have straight := not_mem_parts_parse name
  rw [expandHome] at expands
  split at expands
  · rename_i first rest _ parts
    rw [parts, List.mem_cons, not_or] at straight
    split at expands
    · split at expands
      · cases expands
        intro dot
        rcases List.mem_append.mp dot with home | below
        · exact not_mem_parts_parse _ home
        · exact straight.2 below
      · contradiction
    · cases expands
      rw [parts, List.mem_cons, not_or]
      exact straight
  · cases expands
    exact straight

/-- The file that a path names is found at its address, and its paths start at its directory. -/
theorem NamesFile.locates (stored : fs.IsStorable)
    (named : NamesFile fs (.parse name) address bytes locked) :
    Locates fs (.parse name) ⟨.single, address⟩ ⟨.single, address.dropLast⟩ := by
  obtain ⟨⟨expanded, expands, leads⟩, found⟩ := named
  have straight := straight_expandHome expands
  have unlinked : ∀ target, Entry.file bytes locked ≠ .link target := by simp
  have filed : fs.hasDirectory address = false := by simp [hasDirectory, found]
  constructor
  · rw [locate, expands, ofPath_ok, Except.ok_bind]
    rcases leads with direct | ⟨directory, leads, room, below⟩
    · rw [stored.isDirectory direct found, filed]
      simp only [stored.resolve_eq direct found unlinked straight, ofPath_ok]
    · obtain ⟨hidden, there⟩ := hasDirectory_iff.mp room
      have straight : "." ∉ (expanded.child fileName).parts := by
        simp [Path.child, straight, fileName]
      rw [stored.isDirectory leads there, room]
      simp only [stored.resolve_eq below found unlinked straight, ofPath_ok]
  · rcases List.eq_nil_or_concat address with rfl | ⟨above, last, rfl⟩
    · contradiction
    · rw [List.concat_eq_append] at found ⊢
      have room := stored.isHoused above last _ found
      obtain ⟨hidden, there⟩ := hasDirectory_iff.mp room
      simp only [Path.parent, List.dropLast_concat]
      have unlinked : ∀ target, Entry.directory hidden ≠ .link target := by simp
      refine stored.resolve_eq (stored.leadsTo_self there unlinked) there unlinked ?_
      intro dot
      simpa [isName] using (stored.of_mem there dot).1

/-! ## What is wrong with it -/

/-- The value of a configuration file with these bytes; a blank one has none. -/
inductive HasGraph (bytes : List UInt8) : Graph → Prop where
  | blank {text : String} : textOf bytes = .ok text → Text.trimmed text = "" →
      HasGraph bytes ⟨[], .null⟩
  | document {text : String} {graph : Graph} : textOf bytes = .ok text → Text.trimmed text ≠ "" →
      Graph.ofText text = .ok graph → HasGraph bytes graph

/-- Why a configuration file with these bytes has no value. -/
inductive GraphTrouble (file : Path) (bytes : List UInt8) (locked : Bool) : LoadError → Prop where
  | locked : locked = true →
      GraphTrouble file bytes locked (.refused (.unreadable file.name (.file (.fault .denied file))))
  | undecodable {malformed : Text.Utf8.Malformed} : locked = false →
      textOf bytes = .error malformed →
      GraphTrouble file bytes locked (.refused (.unreadable file.name (.encoding malformed)))
  | unparsable {text : String} {error : Yaml.Error} : locked = false → textOf bytes = .ok text →
      Text.trimmed text ≠ "" → Graph.ofText text = .error error → error.isDiagnosis = true →
      GraphTrouble file bytes locked (.refused (.unparsable file.name error text))
  | valueless {text : String} {error : Yaml.Error} : locked = false → textOf bytes = .ok text →
      Text.trimmed text ≠ "" → Graph.ofText text = .error error → error.isDiagnosis = false →
      GraphTrouble file bytes locked (.value error)

/-- How a configuration file with these bytes fails to be loaded. -/
inductive FailsAs (fs : FileSystem) (file root : Path) (bytes : List UInt8) (locked : Bool) :
    LoadError → Prop where
  | unread {error : LoadError} : GraphTrouble file bytes locked error →
      FailsAs fs file root bytes locked error
  | notMapping {graph : Graph} : locked = false → HasGraph bytes graph →
      rootEntries? graph = none → FailsAs fs file root bytes locked (.refused .notMapping)
  | fields {graph : Graph} {entries : List (Value × Value)} {error : LoadError} :
      locked = false → HasGraph bytes graph → rootEntries? graph = some entries →
      Except.FirstOf (checks fs root graph entries) error →
      FailsAs fs file root bytes locked error

theorem hasGraph_or_trouble (file : Path) (bytes : List UInt8) (locked : Bool) :
    (locked = false ∧ ∃ graph, HasGraph bytes graph) ∨
      ∃ error, GraphTrouble file bytes locked error := by
  cases lock : locked with
  | true => exact .inr ⟨_, .locked rfl⟩
  | false =>
      cases decodes : textOf bytes with
      | error malformed => exact .inr ⟨_, .undecodable rfl decodes⟩
      | ok text =>
          by_cases blank : Text.trimmed text = ""
          · exact .inl ⟨rfl, _, .blank decodes blank⟩
          · cases made : Graph.ofText text with
            | ok graph => exact .inl ⟨rfl, graph, .document decodes blank made⟩
            | error e =>
                cases diagnosed : e.isDiagnosis with
                | true => exact .inr ⟨_, .unparsable rfl decodes blank made diagnosed⟩
                | false => exact .inr ⟨_, .valueless rfl decodes blank made diagnosed⟩

theorem readFile_of_hasGraph (reads : fs.read file = .ok bytes) (has : HasGraph bytes graph) :
    readFile fs file = .ok graph := by
  cases has with
  | blank decodes blank => simp [readFile, readText, reads, decodes, Except.mapError, parse, blank]
  | document decodes filled made =>
      simp [readFile, readText, reads, decodes, Except.mapError, parse, filled, made]

theorem readFile_of_trouble
    (reads : fs.read file = if locked then .error (.fault .denied file) else .ok bytes)
    (trouble : GraphTrouble file bytes locked error) : readFile fs file = .error error := by
  cases trouble with
  | locked lock => simp [readFile, readText, reads, lock]
  | undecodable lock decodes =>
      simp [readFile, readText, reads, lock, decodes, Except.mapError]
  | unparsable lock decodes filled made diagnosed | valueless lock decodes filled made diagnosed =>
      simp [readFile, readText, reads, lock, decodes, Except.mapError, parse, filled, made, diagnosed]

theorem NamesFile.load_eq (stored : fs.IsStorable)
    (named : NamesFile fs (.parse name) address bytes locked) :
    load fs (.parse name) =
      readFile fs ⟨.single, address⟩ >>= ofGraph fs ⟨.single, address.dropLast⟩ := by
  have leads := stored.leadsTo_self named.found nofun
  exact load_of_locates (named.locates stored) (stored.pathExists leads named.found)

theorem NamesFile.load_of_hasGraph (stored : fs.IsStorable)
    (named : NamesFile fs (.parse name) address bytes false) (has : HasGraph bytes graph) :
    load fs (.parse name) = ofGraph fs ⟨.single, address.dropLast⟩ graph := by
  have reads := stored.read (stored.leadsTo_self named.found nofun) named.found
  rw [named.load_eq stored, readFile_of_hasGraph reads has, Except.ok_bind]

theorem NamesFile.load_of_trouble (stored : fs.IsStorable)
    (named : NamesFile fs (.parse name) address bytes locked)
    (trouble : GraphTrouble ⟨.single, address⟩ bytes locked error) :
    load fs (.parse name) = .error error := by
  have reads := stored.read (stored.leadsTo_self named.found nofun) named.found
  rw [named.load_eq stored, readFile_of_trouble reads trouble, Except.error_bind]

/-- A configuration file that is there fails to be loaded by what is wrong with it. -/
theorem NamesFile.load_eq_error_iff (stored : fs.IsStorable)
    (named : NamesFile fs (.parse name) address bytes locked) :
    load fs (.parse name) = .error error ↔
      FailsAs fs ⟨.single, address⟩ ⟨.single, address.dropLast⟩ bytes locked error := by
  constructor
  · intro fails
    rcases hasGraph_or_trouble ⟨.single, address⟩ bytes locked with
      ⟨rfl, graph, has⟩ | ⟨other, trouble⟩
    · rw [named.load_of_hasGraph stored has, ofGraph_eq] at fails
      split at fails
      · exact .fields rfl has ‹_› (ofEntries_eq_error_iff.mp fails)
      · cases fails
        exact .notMapping rfl has ‹_›
    · rw [named.load_of_trouble stored trouble] at fails
      cases fails
      exact .unread trouble
  · intro fails
    cases fails with
    | unread trouble => exact named.load_of_trouble stored trouble
    | notMapping lock has rooted =>
        subst lock
        rw [named.load_of_hasGraph stored has, ofGraph_eq, rooted]
    | fields lock has rooted first =>
        subst lock
        rw [named.load_of_hasGraph stored has, ofGraph_eq, rooted]
        exact ofEntries_eq_error_iff.mpr first

/-! ## How the program answers -/

/-- A configuration is loaded, or it is refused with a message. -/
def Answers (fs : FileSystem) (path : Path) : Prop :=
  (∃ config, load fs path = .ok config) ∨ ∃ refusal, load fs path = .error (.refused refusal)

theorem answers_iff :
    Answers fs path ↔
      ∀ error, load fs path = .error error → ∃ refusal, error = .refused refusal := by
  rw [Answers]
  cases load fs path with
  | ok config => simp
  | error e => simp

/-- The program ends with status 1 and a message where its configuration is refused, and breaks off
where it fails to be loaded otherwise. -/
theorem execute_of_load_eq_error {before : FileSystem} {stamp : String} {arguments : List String}
    {request : CommandLine.Request} {journal : Option Journal}
    (asked : CommandLine.Request.ofArguments arguments = .ok request)
    (configured : request.settings.config = some name)
    (opened : CommandLine.openJournal before request.settings stamp = .ok (fs, journal))
    (fails : load fs (.parse name) = .error error) :
    CommandLine.execute before stamp arguments =
      match error with
      | .refused refusal => .ok ⟨1, "", s!"{programName}: {refusal.message}\n", fs⟩
      | error => .error (.configuration error) := by
  rw [CommandLine.execute, asked]
  simp only [CommandLine.fulfill]
  rw [opened, configured]
  simp only [fails]
  cases error with
  | refused | path | value | longInteger => rfl

/-- A configuration file that is there is loaded or refused, whatever is in it, exactly if what is
wrong with it first is a refusal. The program then ends with status 1 and the message of the refusal;
it breaks off where anything else is wrong first. -/
theorem load_answers_iff (stored : fs.IsStorable)
    (named : NamesFile fs (.parse name) address bytes locked) :
    let Fails := FailsAs fs ⟨.single, address⟩ ⟨.single, address.dropLast⟩ bytes locked
    (∀ error, load fs (.parse name) = .error error ↔ Fails error) ∧
      (Answers fs (.parse name) ↔ ∀ error, Fails error → ∃ refusal, error = .refused refusal) ∧
      ∀ before stamp arguments request journal error,
        CommandLine.Request.ofArguments arguments = .ok request →
        request.settings.config = some name →
        CommandLine.openJournal before request.settings stamp = .ok (fs, journal) →
        Fails error →
          (∀ refusal, error = .refused refusal →
            CommandLine.execute before stamp arguments =
              .ok ⟨1, "", s!"{programName}: {refusal.message}\n", fs⟩) ∧
          ((∀ refusal, error ≠ .refused refusal) →
            CommandLine.execute before stamp arguments = .error (.configuration error)) := by
  intro Fails
  have fails_iff : ∀ error, load fs (.parse name) = .error error ↔ Fails error :=
    fun _ => named.load_eq_error_iff stored
  refine ⟨fails_iff, ?_, ?_⟩
  · simp only [answers_iff, fails_iff]
  · intro before stamp arguments request journal error asked configured opened fails
    have ends := execute_of_load_eq_error asked configured opened ((fails_iff error).mpr fails)
    constructor
    · rintro refusal rfl
      exact ends
    · intro unrefused
      cases error with
      | refused refusal => exact (unrefused refusal rfl).elim
      | path | value | longInteger => exact ends

deriving instance DecidableEq for Yaml.Cell

deriving instance DecidableEq for Yaml.Graph

/-- A configuration with a date in a month that there is not. -/
def impossibleDate : FileSystem :=
  { entries := [(["w"], .directory false),
      (["w", ".ruling.yml"], .file (Text.Utf8.encode "a: 2001-99-99\n".toList) false)]
    current := ["w"]
    homes := [] }

theorem namesFile_impossibleDate :
    NamesFile impossibleDate (Path.parse ".") ["w", ".ruling.yml"]
      (Text.Utf8.encode "a: 2001-99-99\n".toList) false where
  leads := by
    refine ⟨Path.parse ".", by decide, .inr ⟨["w"], ?_, by decide, ?_⟩⟩
    · exact .arrive
    · exact leads_singleton (by decide) (by decide) nofun
  found := by decide

theorem load_answers_iff_impossibleDate :
    impossibleDate.IsStorable ∧
      NamesFile impossibleDate (Path.parse ".") ["w", ".ruling.yml"]
        (Text.Utf8.encode "a: 2001-99-99\n".toList) false ∧
      (Answers impossibleDate (Path.parse ".") ↔
        ∀ error, FailsAs impossibleDate ⟨.single, ["w", ".ruling.yml"]⟩ ⟨.single, ["w"]⟩
          (Text.Utf8.encode "a: 2001-99-99\n".toList) false error →
            ∃ refusal, error = .refused refusal) := by
  have stored : impossibleDate.IsStorable := by decide
  exact ⟨stored, namesFile_impossibleDate, (load_answers_iff stored namesFile_impossibleDate).2.1⟩

/-- A configuration is neither loaded nor refused because of a date in it, and the program breaks off
without an answer. -/
theorem impossibleDate_not_answers :
    impossibleDate.IsStorable ∧
      NamesFile impossibleDate (Path.parse ".") ["w", ".ruling.yml"]
        (Text.Utf8.encode "a: 2001-99-99\n".toList) false ∧
      load impossibleDate (Path.parse ".") = .error (.value (.scalar (.calendar .month))) ∧
      ¬Answers impossibleDate (Path.parse ".") ∧
      CommandLine.execute impossibleDate "" ["list"] =
        .error (.configuration (.value (.scalar (.calendar .month)))) := by
  have stored : impossibleDate.IsStorable := by decide
  have decodes : textOf (Text.Utf8.encode "a: 2001-99-99\n".toList) = .ok "a: 2001-99-99\n" := by
    decide +kernel
  have made : Graph.ofText "a: 2001-99-99\n" = .error (.scalar (.calendar .month)) := by
    decide +kernel
  have fails : load impossibleDate (Path.parse ".") =
      .error (.value (.scalar (.calendar .month))) :=
    namesFile_impossibleDate.load_of_trouble stored (.valueless rfl decodes (by decide) made rfl)
  refine ⟨stored, namesFile_impossibleDate, fails, ?_, ?_⟩
  · rw [answers_iff]
    intro refuses
    obtain ⟨refusal, same⟩ := refuses _ fails
    contradiction
  · have asked : CommandLine.Request.ofArguments ["list"] = .ok ⟨.list, { config := some "." }⟩ := by
      rfl
    have opened : CommandLine.openJournal impossibleDate { config := some "." } "" =
        .ok (impossibleDate, none) := rfl
    exact execute_of_load_eq_error asked rfl opened fails

end Baseline.Configuration
