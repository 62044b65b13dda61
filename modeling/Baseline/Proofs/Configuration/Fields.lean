import Baseline.Proofs.Configuration
import Mathlib.Data.List.Nodup

/-!
# Fields of a configuration

What the fields of a configuration file say, and what may be wrong with them. The fields are looked
at in order, and the first of them that something is wrong with decides how loading fails.
-/

namespace Baseline.Configuration

open Yaml (Value Graph)

variable {fs : FileSystem} {root path : Path} {graph : Graph} {value entry : Value}
  {entries : List (Value × Value)} {field : String} {found : Option String} {error : LoadError}
  {config : Configuration} {spec : ProjectSpec}

/-! ## Texts -/

/-- An integer with too many digits to be shown. -/
def IsLong (value : Value) : Prop := ∃ n, value = .int n ∧ Number.isShowable n = false

/-- The text that a value is read as: texts and numbers have one. -/
inductive ReadsText : Value → Option String → Prop where
  | text (s : String) : ReadsText (.text s) (some s)
  | int {n : Int} : Number.isShowable n = true → ReadsText (.int n) (some (toString n))
  | float (x : Binary64) : ReadsText (.float x) (some x.text)
  | other {value : Value} : (∀ s, value ≠ .text s) → (∀ n, value ≠ .int n) →
      (∀ x, value ≠ .float x) → ReadsText value none

theorem integerText_eq (n : Int) :
    integerText n =
      if Number.isShowable n = true then .ok (toString n) else .error .longInteger := by
  unfold integerText Number.showInteger?
  cases Number.isShowable n <;> rfl

theorem textOf?_int (n : Int) :
    textOf? (.int n) =
      if Number.isShowable n = true then .ok (some (toString n)) else .error .longInteger := by
  unfold textOf?
  simp only [integerText_eq]
  cases Number.isShowable n <;> rfl

theorem textOf?_eq_ok_iff : textOf? value = .ok found ↔ ReadsText value found := by
  constructor
  · intro reads
    cases value with
    | text s =>
        cases reads
        exact .text s
    | float x =>
        cases reads
        exact .float x
    | int n =>
        rw [textOf?_int] at reads
        by_cases short : Number.isShowable n = true
        · rw [if_pos short] at reads
          rw [← Except.ok.inj reads]
          exact .int short
        · rw [if_neg short] at reads
          contradiction
    | _ =>
        cases reads
        exact .other nofun nofun nofun
  · intro reads
    cases reads with
    | text | float => rfl
    | int short => rw [textOf?_int, if_pos short]
    | other text int float =>
        cases value with
        | text s => exact (text s rfl).elim
        | int n => exact (int n rfl).elim
        | float x => exact (float x rfl).elim
        | _ => rfl

theorem textOf?_eq_error_iff :
    textOf? value = .error error ↔ IsLong value ∧ error = .longInteger := by
  cases value with
  | int n =>
      rw [textOf?_int]
      by_cases short : Number.isShowable n = true
      · simp [IsLong, short]
      · rw [if_neg short]
        constructor
        · intro fails
          exact ⟨⟨n, rfl, eq_false_of_ne_true short⟩, (Except.error.inj fails).symm⟩
        · rintro ⟨-, rfl⟩
          rfl
  | _ => simp [textOf?, IsLong]

theorem ReadsText.unique {other : Option String} (one : ReadsText value found)
    (two : ReadsText value other) : found = other :=
  Except.ok.inj ((textOf?_eq_ok_iff.mpr one).symm.trans (textOf?_eq_ok_iff.mpr two))

theorem textsOfItems_eq_error_iff {items : List Value} :
    textsOfItems items = .error error ↔
      (∃ item ∈ items, IsLong item) ∧ error = .longInteger := by
  fun_induction textsOfItems items with
  | case1 => simp
  | case2 b rest induction =>
      have short : ¬IsLong (.bool b) := nofun
      simp only [List.mem_cons, exists_eq_or_imp, short, false_or, ← induction]
      cases textsOfItems rest <;> simp [Except.map]
  | case3 item rest _ induction =>
      simp only [List.mem_cons, exists_eq_or_imp]
      cases reads : textOf? item with
      | error other =>
          obtain ⟨long, rfl⟩ := textOf?_eq_error_iff.mp reads
          exact ⟨fun fails => ⟨.inl long, (Except.error.inj fails).symm⟩, fun ⟨_, same⟩ => same ▸ rfl⟩
      | ok found =>
          have short : ¬IsLong item := fun long =>
            nomatch reads.symm.trans (textOf?_eq_error_iff.mpr ⟨long, rfl⟩)
          simp only [short, false_or, ← induction]
          cases textsOfItems rest with
          | error => exact Iff.rfl
          | ok => exact ⟨nofun, nofun⟩

/-- An item of a list of texts has too many digits. -/
def HasLongItem (graph : Graph) (value : Value) : Prop :=
  ∃ items, graph.list? value = some items ∧ ∃ item ∈ items, IsLong item

theorem textsOf_eq_error_iff :
    textsOf graph value = .error error ↔ HasLongItem graph value ∧ error = .longInteger := by
  unfold textsOf HasLongItem
  split
  · simp [Graph.list?]
  · rename_i listed
    simp [listed, textsOfItems_eq_error_iff]
  · rename_i unlisted
    simp [unlisted]

/-! ## Paths and numbers -/

/-- Why a value cannot be read as a path. -/
inductive PathTrouble (fs : FileSystem) (root : Path) (value : Value) : LoadError → Prop where
  | long : IsLong value → PathTrouble fs root value .longInteger
  | homeless {text : String} {error : FileSystem.PathError} : ReadsText value (some text) →
      text ≠ "" → fs.expandHome (.parse text) = .error error →
      PathTrouble fs root value (.path error)
  | unresolved {text : String} {expanded : Path} {error : FileSystem.PathError} :
      ReadsText value (some text) → text ≠ "" → fs.expandHome (.parse text) = .ok expanded →
      expanded.isAbsolute = false → fs.resolve (root.join expanded) = .error error →
      PathTrouble fs root value (.path error)

@[simp] theorem ofPath_ok : ofPath (.ok path) = .ok path := rfl

theorem pathOf?_of_readsText {text : String} (read : ReadsText value (some text))
    (filled : text ≠ "") :
    pathOf? fs root value = (do
      let expanded ← ofPath (fs.expandHome (.parse text))
      if expanded.isAbsolute then return some expanded
      else return some (← ofPath (fs.resolve (root.join expanded)))) := by
  rw [pathOf?, textOf?_eq_ok_iff.mpr read, Except.ok_bind]
  split
  · contradiction
  · exact (filled (Option.some.inj ‹_›)).elim
  · cases ‹some text = _›
    rfl

theorem pathOf?_eq_error_iff :
    pathOf? fs root value = .error error ↔ PathTrouble fs root value error := by
  constructor
  · intro fails
    cases reads : textOf? value with
    | error other =>
        obtain ⟨long, rfl⟩ := textOf?_eq_error_iff.mp reads
        rw [pathOf?, reads] at fails
        cases fails
        exact .long long
    | ok found =>
        have read := textOf?_eq_ok_iff.mp reads
        rcases found with - | text
        · rw [pathOf?, reads] at fails
          contradiction
        · by_cases filled : text = ""
          · rw [pathOf?, reads, filled] at fails
            contradiction
          · rw [pathOf?_of_readsText read filled] at fails
            cases expands : fs.expandHome (.parse text) with
            | error other =>
                rw [expands] at fails
                cases fails
                exact .homeless read filled expands
            | ok expanded =>
                rw [expands, ofPath_ok, Except.ok_bind] at fails
                split at fails
                · contradiction
                · rename_i relative
                  cases resolves : fs.resolve (root.join expanded) with
                  | error other =>
                      rw [resolves] at fails
                      cases fails
                      exact .unresolved read filled expands (eq_false_of_ne_true relative) resolves
                  | ok resolved =>
                      rw [resolves] at fails
                      contradiction
  · intro trouble
    cases trouble with
    | long long =>
        rw [pathOf?, textOf?_eq_error_iff.mpr ⟨long, rfl⟩]
        rfl
    | homeless read filled expands =>
        rw [pathOf?_of_readsText read filled, expands]
        rfl
    | unresolved read filled expands relative resolves =>
        rw [pathOf?_of_readsText read filled, expands, ofPath_ok, Except.ok_bind, relative, resolves]
        rfl

/-- The integer of a field that should be positive is not. -/
def NotPositive (entries : List (Value × Value)) (field : String) (error : LoadError) : Prop :=
  (∃ n, integerOf? (firstField entries [field]) = some n ∧ n < 1) ∧
    error = .refused (.notPositive field)

theorem positive?_eq_error_iff :
    positive? entries field = .error error ↔ NotPositive entries field error := by
  rw [positive?, NotPositive]
  cases integerOf? (firstField entries [field]) with
  | none => simp
  | some n =>
      simp only [Option.some.injEq, exists_eq_left']
      split
      · rename_i low
        simp [low, eq_comm]
      · rename_i positive
        simp [positive]

/-- A number that should be positive is so, or is not given. -/
theorem one_le_of_positive? {n : Int} (given : positive? entries field = .ok (some n)) : 1 ≤ n := by
  rw [positive?] at given
  split at given
  · cases given
  · split at given
    · cases given
    · cases given
      omega

/-! ## Projects -/

/-- The project that an entry describes: a text is its name, a map has its name and more. -/
inductive Describes (graph : Graph) : Value → ProjectSpec → Prop where
  | name (name : String) : Describes graph (.text name) { name }
  | fields {entry : Value} {entries : List (Value × Value)} {name : String}
      {testDir exclusions folder : Option String} : graph.map? entry = some entries →
      ReadsText (firstField entries ["name"]) (some name) → name ≠ "" →
      ReadsText (firstField entries ["testDir", "test_dir"]) testDir →
      ReadsText (firstField entries ["exclusions"]) exclusions →
      ReadsText (firstField entries ["folder"]) folder →
      Describes graph entry { name, testDir, exclusions, folder }

/-- Why an entry describes no project. -/
inductive ProjectTrouble (graph : Graph) (entry : Value) : LoadError → Prop where
  | other {shown : String} : (∀ name, entry ≠ .text name) → graph.map? entry = none →
      graph.display? entry = some shown → ProjectTrouble graph entry (.refused (.notProject shown))
  | unshown : (∀ name, entry ≠ .text name) → graph.map? entry = none →
      graph.display? entry = none → ProjectTrouble graph entry .longInteger
  | longName {entries : List (Value × Value)} : graph.map? entry = some entries →
      IsLong (firstField entries ["name"]) → ProjectTrouble graph entry .longInteger
  | nameless {entries : List (Value × Value)} {found : Option String} :
      graph.map? entry = some entries → ReadsText (firstField entries ["name"]) found →
      found.getD "" = "" → ProjectTrouble graph entry (.refused .namelessProject)
  | longField {entries : List (Value × Value)} {name : String} {keys : List String} :
      graph.map? entry = some entries → ReadsText (firstField entries ["name"]) (some name) →
      name ≠ "" → keys ∈ [["testDir", "test_dir"], ["exclusions"], ["folder"]] →
      IsLong (firstField entries keys) → ProjectTrouble graph entry .longInteger

/-- A project of a name, with the other fields of its entry. -/
def specOf (entries : List (Value × Value)) (name : String) : Except LoadError ProjectSpec := do
  let testDir ← textOf? (firstField entries ["testDir", "test_dir"])
  let exclusions ← textOf? (firstField entries ["exclusions"])
  let folder ← textOf? (firstField entries ["folder"])
  return { name, testDir, exclusions, folder }

theorem specOf_eq_error_iff {name : String} :
    specOf entries name = .error error ↔
      (∃ keys ∈ [["testDir", "test_dir"], ["exclusions"], ["folder"]],
        IsLong (firstField entries keys)) ∧ error = .longInteger := by
  have short {value : Value} {found : Option String} (reads : textOf? value = .ok found) :
      ¬IsLong value := fun long => nomatch reads.symm.trans (textOf?_eq_error_iff.mpr ⟨long, rfl⟩)
  have fails {value : Value} {other : LoadError} {next : Option String → Except LoadError ProjectSpec}
      (reads : textOf? value = .error other) :
      textOf? value >>= next = .error error ↔ error = .longInteger := by
    obtain ⟨-, rfl⟩ := textOf?_eq_error_iff.mp reads
    rw [reads, Except.error_bind, Except.error.injEq, eq_comm]
  rw [specOf]
  simp only [List.mem_cons, List.not_mem_nil, or_false, exists_eq_or_imp, exists_eq_left]
  cases tested : textOf? (firstField entries ["testDir", "test_dir"]) with
  | error other =>
      rw [← tested, fails tested]
      simp [(textOf?_eq_error_iff.mp tested).1]
  | ok testDir =>
      rw [Except.ok_bind]
      cases excluded : textOf? (firstField entries ["exclusions"]) with
      | error other =>
          rw [← excluded, fails excluded]
          simp [(textOf?_eq_error_iff.mp excluded).1]
      | ok exclusions =>
          rw [Except.ok_bind]
          cases lies : textOf? (firstField entries ["folder"]) with
          | error other =>
              rw [← lies, fails lies]
              simp [(textOf?_eq_error_iff.mp lies).1]
          | ok folder =>
              simp [short tested, short excluded, short lies, pure, Except.pure]

/-- What the entry of a map is, but for its name. -/
theorem projectOf_of_map (mapped : graph.map? entry = some entries) :
    projectOf graph entry = (do
      match ← textOf? (firstField entries ["name"]) with
      | none | some "" => .error (.refused .namelessProject)
      | some name => specOf entries name) := by
  unfold projectOf
  split
  · contradiction
  · rename_i unmapped
    cases unmapped.symm.trans mapped
  · rename_i others
    cases others.symm.trans mapped
    rfl

theorem projectOf_of_named {name : String} (mapped : graph.map? entry = some entries)
    (read : ReadsText (firstField entries ["name"]) (some name)) (filled : name ≠ "") :
    projectOf graph entry = specOf entries name := by
  rw [projectOf_of_map mapped, textOf?_eq_ok_iff.mpr read, Except.ok_bind]
  simp

theorem projectOf_of_nameless (mapped : graph.map? entry = some entries)
    (read : ReadsText (firstField entries ["name"]) found) (empty : found.getD "" = "") :
    projectOf graph entry = .error (.refused .namelessProject) := by
  rw [projectOf_of_map mapped, textOf?_eq_ok_iff.mpr read, Except.ok_bind]
  cases found with
  | none => rfl
  | some name =>
      cases (show name = "" from empty)
      rfl

theorem projectOf_of_other (untexted : ∀ name, entry ≠ .text name)
    (unmapped : graph.map? entry = none) :
    projectOf graph entry =
      match graph.display? entry with
      | some shown => .error (.refused (.notProject shown))
      | none => .error .longInteger := by
  unfold projectOf
  split
  · exact (untexted _ rfl).elim
  · rfl
  · rename_i mapped
    cases unmapped.symm.trans mapped

theorem projectOf_eq_ok_iff : projectOf graph entry = .ok spec ↔ Describes graph entry spec := by
  constructor
  · intro made
    cases mapped : graph.map? entry with
    | some entries =>
        rw [projectOf_of_map mapped] at made
        obtain ⟨name, named, made⟩ := Except.exists_of_bind_eq_ok made
        split at made
        · contradiction
        · contradiction
        · rename_i name filled
          obtain ⟨testDir, tested, made⟩ := Except.exists_of_bind_eq_ok made
          obtain ⟨exclusions, excluded, made⟩ := Except.exists_of_bind_eq_ok made
          obtain ⟨folder, lies, made⟩ := Except.exists_of_bind_eq_ok made
          cases made
          exact .fields mapped (textOf?_eq_ok_iff.mp named) filled (textOf?_eq_ok_iff.mp tested)
            (textOf?_eq_ok_iff.mp excluded) (textOf?_eq_ok_iff.mp lies)
    | none =>
        by_cases texted : ∃ name, entry = .text name
        · obtain ⟨name, rfl⟩ := texted
          cases made
          exact .name name
        · rw [projectOf_of_other (not_exists.mp texted) mapped] at made
          split at made <;> contradiction
  · intro describes
    cases describes with
    | name => rfl
    | fields mapped named filled tested excluded lies =>
        rw [projectOf_of_named mapped named filled, specOf, textOf?_eq_ok_iff.mpr tested,
          textOf?_eq_ok_iff.mpr excluded, textOf?_eq_ok_iff.mpr lies]
        rfl

theorem mapM_projectOf_eq_ok_iff {items : List Value} {specs : List ProjectSpec} :
    items.mapM (projectOf graph) = .ok specs ↔ List.Forall₂ (Describes graph) items specs := by
  rw [Except.mapM_eq_ok_iff]
  exact ⟨.imp fun _ _ => projectOf_eq_ok_iff.mp, .imp fun _ _ => projectOf_eq_ok_iff.mpr⟩

theorem projectOf_eq_error_iff :
    projectOf graph entry = .error error ↔ ProjectTrouble graph entry error := by
  constructor
  · intro fails
    cases mapped : graph.map? entry with
    | none =>
        by_cases texted : ∃ name, entry = .text name
        · obtain ⟨name, rfl⟩ := texted
          contradiction
        · have untexted := not_exists.mp texted
          rw [projectOf_of_other untexted mapped] at fails
          split at fails
          · cases fails
            exact .other untexted mapped ‹_›
          · cases fails
            exact .unshown untexted mapped ‹_›
    | some entries =>
        cases reads : textOf? (firstField entries ["name"]) with
        | error other =>
            obtain ⟨long, rfl⟩ := textOf?_eq_error_iff.mp reads
            rw [projectOf_of_map mapped, reads] at fails
            cases fails
            exact .longName mapped long
        | ok found =>
            have read := textOf?_eq_ok_iff.mp reads
            by_cases empty : found.getD "" = ""
            · rw [projectOf_of_nameless mapped read empty] at fails
              cases fails
              exact .nameless mapped read empty
            · cases found with
              | none => contradiction
              | some name =>
                  rw [projectOf_of_named mapped read empty] at fails
                  obtain ⟨⟨keys, key, long⟩, rfl⟩ := specOf_eq_error_iff.mp fails
                  exact .longField mapped read empty key long
  · intro trouble
    cases trouble with
    | other untexted unmapped displays | unshown untexted unmapped displays =>
        rw [projectOf_of_other untexted unmapped, displays]
    | longName mapped long =>
        rw [projectOf_of_map mapped, textOf?_eq_error_iff.mpr ⟨long, rfl⟩]
        rfl
    | nameless mapped read empty => exact projectOf_of_nameless mapped read empty
    | longField mapped read filled key long =>
        rw [projectOf_of_named mapped read filled]
        exact specOf_eq_error_iff.mpr ⟨⟨_, key, long⟩, rfl⟩

/-! ## Entries -/

theorem repeated_eq_nil_iff {names : List String} : repeated names = [] ↔ names.Nodup := by
  simp only [repeated, List.eq_nil_iff_forall_not_mem, List.nodup_iff_count_le_one,
    Text.mem_sortedDistinct, List.mem_filter, decide_eq_true_iff, not_and, Nat.not_lt]
  constructor
  · intro single name
    by_cases member : name ∈ names
    · exact single name member
    · rw [List.count_eq_zero_of_not_mem member]
      exact Nat.zero_le 1
  · intro single name _
    exact single name

/-- The rules that markup files are not checked for, as a value gives them. -/
def excludedRulesOf (graph : Graph) : Value → Except LoadError (List String)
  | .null => .ok standardExcludedRules
  | value => textsOf graph value

theorem excludedRulesOf_eq_error_iff :
    excludedRulesOf graph value = .error error ↔ HasLongItem graph value ∧ error = .longInteger := by
  unfold excludedRulesOf
  split
  · simp [HasLongItem, Graph.list?]
  · exact textsOf_eq_error_iff

/-- The entries that should describe projects. -/
def projectEntries (graph : Graph) (entries : List (Value × Value)) : List Value :=
  listOf graph (firstField entries ["projects"])

/-- The configuration with these fields, unless projects share a name. -/
def ofFields (root : Path) (sources results : Option Path) (maxWorkers maxFileSize : Option Int)
    (markupExcludedRules : List String) (projects : List ProjectSpec) :
    Except LoadError Configuration :=
  match repeated (projects.map ProjectSpec.name) with
  | [] => .ok {
      root
      sources := sources.getD (root.child "sources")
      results := results.getD (root.child "actual")
      maxWorkers := maxWorkers.getD standardWorkers
      maxFileSize := maxFileSize.getD Source.standardSizeLimit
      markupExcludedRules
      projects }
  | names => .error (.refused (.repeatedNames names))

theorem ofFields_eq_ok {sources results : Option Path} {maxWorkers maxFileSize : Option Int}
    {excluded : List String} {projects : List ProjectSpec}
    (distinct : (projects.map ProjectSpec.name).Nodup) :
    ofFields root sources results maxWorkers maxFileSize excluded projects = .ok {
      root
      sources := sources.getD (root.child "sources")
      results := results.getD (root.child "actual")
      maxWorkers := maxWorkers.getD standardWorkers
      maxFileSize := maxFileSize.getD Source.standardSizeLimit
      markupExcludedRules := excluded
      projects } := by
  rw [ofFields, repeated_eq_nil_iff.mpr distinct]

theorem ofFields_eq_error {sources results : Option Path} {maxWorkers maxFileSize : Option Int}
    {excluded : List String} {projects : List ProjectSpec}
    (shared : ¬(projects.map ProjectSpec.name).Nodup) :
    ofFields root sources results maxWorkers maxFileSize excluded projects =
      .error (.refused (.repeatedNames (repeated (projects.map ProjectSpec.name)))) := by
  rw [ofFields]
  split
  · rename_i none
    exact (shared (repeated_eq_nil_iff.mp none)).elim
  · rfl

theorem ofEntries_eq : ofEntries fs root graph entries = (do
    let sources ← pathOf? fs root (firstField entries ["sources_dir"])
    let results ← pathOf? fs root (firstField entries ["actual_dir"])
    let maxWorkers ← positive? entries "max_workers"
    let maxFileSize ← positive? entries "max_file_size_kb"
    let excluded ← excludedRulesOf graph (firstField entries ["markup_excluded_rules"])
    let projects ← (projectEntries graph entries).mapM (projectOf graph)
    ofFields root sources results maxWorkers maxFileSize excluded projects) := by
  rw [ofEntries]
  simp only [ofFields, projectEntries, standard]
  generalize firstField entries ["markup_excluded_rules"] = excluded
  cases excluded <;> rfl

/-- Entries describe projects that share names. -/
def Repeats (graph : Graph) (items : List Value) (error : LoadError) : Prop :=
  ∃ specs, List.Forall₂ (Describes graph) items specs ∧ ¬(specs.map ProjectSpec.name).Nodup ∧
    error = .refused (.repeatedNames (repeated (specs.map ProjectSpec.name)))

/-- What the fields of a configuration are checked for, in order. -/
def checks (fs : FileSystem) (root : Path) (graph : Graph) (entries : List (Value × Value)) :
    List (LoadError → Prop) :=
  PathTrouble fs root (firstField entries ["sources_dir"]) ::
  PathTrouble fs root (firstField entries ["actual_dir"]) ::
  NotPositive entries "max_workers" ::
  NotPositive entries "max_file_size_kb" ::
  (fun error => HasLongItem graph (firstField entries ["markup_excluded_rules"]) ∧
    error = .longInteger) ::
  ((projectEntries graph entries).map (ProjectTrouble graph) ++
    [Repeats graph (projectEntries graph entries)])

/-- The first thing that is wrong with the fields decides how loading them fails. -/
theorem ofEntries_eq_error_iff :
    ofEntries fs root graph entries = .error error ↔
      Except.FirstOf (checks fs root graph entries) error := by
  rw [ofEntries_eq]
  refine Except.bind_eq_error_iff (fun _ => pathOf?_eq_error_iff) fun sources _ => ?_
  refine Except.bind_eq_error_iff (fun _ => pathOf?_eq_error_iff) fun results _ => ?_
  refine Except.bind_eq_error_iff (fun _ => positive?_eq_error_iff) fun maxWorkers _ => ?_
  refine Except.bind_eq_error_iff (fun _ => positive?_eq_error_iff) fun maxFileSize _ => ?_
  refine Except.bind_eq_error_iff (fun _ => excludedRulesOf_eq_error_iff) fun excluded _ => ?_
  refine Except.mapM_bind_eq_error_iff (fun _ _ => projectOf_eq_error_iff) fun specs made => ?_
  have certain {others : List ProjectSpec}
      (too : List.Forall₂ (Describes graph) (projectEntries graph entries) others) :
      others = specs :=
    Except.ok.inj ((mapM_projectOf_eq_ok_iff.mpr too).symm.trans made)
  by_cases distinct : (specs.map ProjectSpec.name).Nodup
  · rw [ofFields_eq_ok distinct]
    refine ⟨nofun, fun found => ?_⟩
    cases found with
    | here repeats =>
        obtain ⟨others, too, shared, -⟩ := repeats
        exact (shared (certain too ▸ distinct)).elim
    | later _ rest => cases rest
  · rw [ofFields_eq_error distinct]
    constructor
    · intro fails
      exact .here ⟨specs, mapM_projectOf_eq_ok_iff.mp made, distinct, (Except.error.inj fails).symm⟩
    · intro found
      cases found with
      | here repeats =>
          obtain ⟨others, too, -, rfl⟩ := repeats
          rw [certain too]
      | later _ rest => cases rest

/-- What a configuration has of the fields of its file. -/
structure Configured (fs : FileSystem) (root : Path) (graph : Graph)
    (entries : List (Value × Value)) (config : Configuration) : Prop where
  root_eq : config.root = root
  sources : ∃ found, pathOf? fs root (firstField entries ["sources_dir"]) = .ok found ∧
    config.sources = found.getD (root.child "sources")
  results : ∃ found, pathOf? fs root (firstField entries ["actual_dir"]) = .ok found ∧
    config.results = found.getD (root.child "actual")
  workers : ∃ found, positive? entries "max_workers" = .ok found ∧
    config.maxWorkers = found.getD standardWorkers
  fileSize : ∃ found, positive? entries "max_file_size_kb" = .ok found ∧
    config.maxFileSize = found.getD Source.standardSizeLimit
  excluded : excludedRulesOf graph (firstField entries ["markup_excluded_rules"]) =
    .ok config.markupExcludedRules
  projects : List.Forall₂ (Describes graph) (projectEntries graph entries) config.projects
  distinct : config.projectNames.Nodup

theorem configured_of_ofEntries (made : ofEntries fs root graph entries = .ok config) :
    Configured fs root graph entries config := by
  rw [ofEntries_eq] at made
  obtain ⟨sources, sourced, made⟩ := Except.exists_of_bind_eq_ok made
  obtain ⟨results, resulting, made⟩ := Except.exists_of_bind_eq_ok made
  obtain ⟨maxWorkers, working, made⟩ := Except.exists_of_bind_eq_ok made
  obtain ⟨maxFileSize, sized, made⟩ := Except.exists_of_bind_eq_ok made
  obtain ⟨rules, excluded, made⟩ := Except.exists_of_bind_eq_ok made
  obtain ⟨projects, described, made⟩ := Except.exists_of_bind_eq_ok made
  by_cases distinct : (projects.map ProjectSpec.name).Nodup
  · rw [ofFields_eq_ok distinct] at made
    cases made
    exact {
      root_eq := rfl
      sources := ⟨sources, sourced, rfl⟩
      results := ⟨results, resulting, rfl⟩
      workers := ⟨maxWorkers, working, rfl⟩
      fileSize := ⟨maxFileSize, sized, rfl⟩
      excluded
      projects := mapM_projectOf_eq_ok_iff.mp described
      distinct }
  · rw [ofFields_eq_error distinct] at made
    contradiction

end Baseline.Configuration
