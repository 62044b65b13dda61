import Baseline.Proofs.Configuration.Fields

/-!
# Configurations that are loaded

A configuration is loaded from the file that a path names, or it is the standard one where there is
no file. Either way its numbers are positive, its paths start at the root and its projects have
different names; so a name is that of at most one of them.
-/

namespace Baseline.Configuration

open FileSystem
open Yaml (Value Graph)

variable {fs : FileSystem} {path file root : Path} {graph : Graph} {value : Value}
  {entries : List (Value × Value)} {config : Configuration} {spec : ProjectSpec} {name field : String}

/-! ## The way to a configuration -/

/-- A path names the place of a configuration file, and the directory that its paths start at. -/
structure Locates (fs : FileSystem) (path file root : Path) : Prop where
  file_eq : locate fs path = .ok file
  root_eq : fs.resolve file.parent = .ok root

/-- The entries that a configuration is made of, where it may be made of a graph: those of a map, and
none where the graph counts as nothing. -/
def rootEntries? (graph : Graph) : Option (List (Value × Value)) :=
  if graph.isTruthy graph.root then graph.map? graph.root else some []

theorem ofGraph_eq :
    ofGraph fs root graph =
      match rootEntries? graph with
      | some entries => ofEntries fs root graph entries
      | none => .error (.refused .notMapping) := by
  rw [ofGraph, rootEntries?]
  cases graph.isTruthy graph.root <;> rfl

/-- How a configuration is loaded. -/
inductive Loads (fs : FileSystem) (path : Path) : Configuration → Prop where
  | standard {file root : Path} : Locates fs path file root → fs.pathExists file = .ok false →
      Loads fs path (standard root)
  | file {file root : Path} {graph : Graph} {entries : List (Value × Value)}
      {config : Configuration} : Locates fs path file root → fs.pathExists file = .ok true →
      readFile fs file = .ok graph → rootEntries? graph = some entries →
      ofEntries fs root graph entries = .ok config → Loads fs path config

theorem load_of_locates (located : Locates fs path file root)
    (found : fs.pathExists file = .ok true) :
    load fs path = readFile fs file >>= ofGraph fs root := by
  rw [load, located.file_eq, Except.ok_bind, located.root_eq, ofPath_ok, Except.ok_bind]
  simp only [found]

theorem loads_of_load (loaded : load fs path = .ok config) : Loads fs path config := by
  have start := loaded
  rw [load] at start
  obtain ⟨file, named, start⟩ := Except.exists_of_bind_eq_ok start
  obtain ⟨root, resolves, start⟩ := Except.exists_of_bind_eq_ok start
  have located : Locates fs path file root := ⟨named, resolve_of_ofPath resolves⟩
  split at start
  · contradiction
  · cases start
    exact .standard located ‹_›
  · have found : fs.pathExists file = .ok true := ‹_›
    rw [load_of_locates located found] at loaded
    obtain ⟨graph, reads, loaded⟩ := Except.exists_of_bind_eq_ok loaded
    rw [ofGraph_eq] at loaded
    split at loaded
    · exact .file located found reads ‹_› loaded
    · contradiction

/-! ## What holds of every configuration -/

/-- Numbers are positive, paths start at the root, and projects have different names. -/
structure IsSound (config : Configuration) : Prop where
  workers : 1 ≤ config.maxWorkers
  fileSize : 1 ≤ config.maxFileSize
  root : config.root.isAbsolute = true
  sources : config.sources.isAbsolute = true
  results : config.results.isAbsolute = true
  distinct : config.projectNames.Nodup

theorem isSound_standard (absolute : root.isAbsolute = true) : (standard root).IsSound where
  workers := (by decide : (1 : Int) ≤ standardWorkers)
  fileSize := (by decide : (1 : Int) ≤ Source.standardSizeLimit)
  root := absolute
  sources := absolute
  results := absolute
  distinct := List.nodup_nil

theorem isAbsolute_getD {found : Option Path} (named : pathOf? fs root value = .ok found)
    (absolute : root.isAbsolute = true) : (found.getD (root.child name)).isAbsolute = true := by
  cases found with
  | none => exact absolute
  | some path => exact isAbsolute_of_pathOf? named

theorem one_le_getD {found : Option Int} {n : Int} (given : positive? entries field = .ok found)
    (positive : 1 ≤ n) : 1 ≤ found.getD n := by
  cases found with
  | none => exact positive
  | some m => exact one_le_of_positive? given

theorem Configured.isSound (configured : Configured fs root graph entries config)
    (absolute : root.isAbsolute = true) : config.IsSound := by
  obtain ⟨maxWorkers, working, workers⟩ := configured.workers
  obtain ⟨maxFileSize, sized, fileSize⟩ := configured.fileSize
  obtain ⟨sourced, sourcing, sources⟩ := configured.sources
  obtain ⟨resulted, resulting, results⟩ := configured.results
  exact {
    workers := workers ▸ one_le_getD working (by decide)
    fileSize := fileSize ▸ one_le_getD sized (by decide)
    root := configured.root_eq ▸ absolute
    sources := sources ▸ isAbsolute_getD sourcing absolute
    results := results ▸ isAbsolute_getD resulting absolute
    distinct := configured.distinct }

theorem Loads.isSound (loads : Loads fs path config) : config.IsSound := by
  cases loads with
  | standard located => exact isSound_standard (isAbsolute_of_resolve located.root_eq)
  | file located _ _ _ made =>
      exact (configured_of_ofEntries made).isSound (isAbsolute_of_resolve located.root_eq)

/-- A configuration that is loaded keeps its results in a directory that is named from the root. -/
theorem isAbsolute_of_load (loaded : load fs path = .ok config) :
    config.results.isAbsolute = true :=
  (loads_of_load loaded).isSound.results

/-! ## Projects by their names -/

/-- Of projects with different names, one is found by its name. -/
theorem project_eq_ok_iff (distinct : config.projectNames.Nodup) :
    config.project name = .ok spec ↔ spec ∈ config.projects ∧ spec.name = name := by
  rw [project]
  cases finds : config.projects.find? (·.name == name) with
  | none =>
      refine ⟨nofun, fun ⟨member, named⟩ => ?_⟩
      exact (List.find?_eq_none.mp finds spec member (beq_iff_eq.mpr named)).elim
  | some first =>
      have listed := List.mem_of_find?_eq_some finds
      have named : first.name = name := by simpa using List.find?_some finds
      constructor
      · intro same
        cases same
        exact ⟨listed, named⟩
      · rintro ⟨member, rfl⟩
        rw [List.inj_on_of_nodup_map distinct listed member named]

theorem project_eq_error (unlisted : name ∉ config.projectNames) :
    config.project name = .error (.unknownProject name config.projectNames) := by
  have absent : config.projects.find? (·.name == name) = none := by
    rw [List.find?_eq_none]
    intro spec member same
    exact unlisted (List.mem_map.mpr ⟨spec, member, beq_iff_eq.mp same⟩)
  rw [project, absent]

/-- The projects of a configuration are those of its file in order; without a file there are none. -/
inductive ListsProjects (fs : FileSystem) (path : Path) : List ProjectSpec → Prop where
  | standard {file root : Path} : Locates fs path file root → fs.pathExists file = .ok false →
      ListsProjects fs path []
  | file {file root : Path} {graph : Graph} {entries : List (Value × Value)}
      {specs : List ProjectSpec} : Locates fs path file root → fs.pathExists file = .ok true →
      readFile fs file = .ok graph → rootEntries? graph = some entries →
      List.Forall₂ (Describes graph) (projectEntries graph entries) specs →
      ListsProjects fs path specs

theorem Loads.listsProjects (loads : Loads fs path config) :
    ListsProjects fs path config.projects := by
  cases loads with
  | standard located missing => exact .standard located missing
  | file located found reads rooted made =>
      exact .file located found reads rooted (configured_of_ofEntries made).projects

/-- A configuration that is loaded is sound, lists the projects of its file in order, and finds by a
name the one project that has it; for a name that no project has it says so. -/
theorem load_isSound (loaded : load fs path = .ok config) :
    config.IsSound ∧ ListsProjects fs path config.projects ∧
      ∀ name,
        (name ∈ config.projectNames → ∃ spec, config.project name = .ok spec ∧
          ∀ other, other ∈ config.projects ∧ other.name = name ↔ other = spec) ∧
        (name ∉ config.projectNames →
          config.project name = .error (.unknownProject name config.projectNames)) := by
  have loads := loads_of_load loaded
  have sound := loads.isSound
  refine ⟨sound, loads.listsProjects, fun name => ⟨fun listed => ?_, project_eq_error⟩⟩
  obtain ⟨spec, member, named⟩ := List.mem_map.mp listed
  have finds := (project_eq_ok_iff sound.distinct).mpr ⟨member, named⟩
  refine ⟨spec, finds, fun other => ?_⟩
  rw [← project_eq_ok_iff sound.distinct, finds]
  exact ⟨fun same => (Except.ok.inj same).symm, fun same => same ▸ rfl⟩

/-- A configuration with a project that has a number for its name. -/
def numberedProject : FileSystem :=
  { entries := [(["w"], .directory false),
      (["w", ".ruling.yml"],
        .file (Text.Utf8.encode "projects: [\x7bname: 7\x7d, p]".toList) false)]
    current := ["w"]
    homes := [] }

theorem load_isSound_numberedProject :
    ∃ config, load numberedProject (Path.parse ".") = .ok config ∧
      config.projectNames = ["7", "p"] ∧ config.IsSound ∧
      ListsProjects numberedProject (Path.parse ".") config.projects ∧
      (∃ spec, config.project "7" = .ok spec ∧
        ∀ other, other ∈ config.projects ∧ other.name = "7" ↔ other = spec) ∧
      config.project "q" = .error (.unknownProject "q" ["7", "p"]) := by
  have names : (load numberedProject (Path.parse ".")).toOption.map projectNames =
      some ["7", "p"] := by decide +kernel
  cases loaded : load numberedProject (Path.parse ".") with
  | error e => simp [loaded, Except.toOption] at names
  | ok config =>
      obtain ⟨sound, lists, finds⟩ := load_isSound loaded
      have names : config.projectNames = ["7", "p"] := by simpa [loaded, Except.toOption] using names
      have listed : "7" ∈ config.projectNames := by simp [names]
      have unlisted : "q" ∉ config.projectNames := by simp [names]
      exact ⟨config, rfl, names, sound, lists, (finds "7").1 listed, names ▸ (finds "q").2 unlisted⟩

end Baseline.Configuration
