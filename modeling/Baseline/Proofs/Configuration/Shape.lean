import Baseline.Proofs.Configuration.Refusal

/-!
# Shapes of configurations

The root of a configuration should be a map or null, and each of its projects a text or a map with a
name. What counts as nothing passes for an empty map, whatever it is, and a text passes for a name
even if it is empty; apart from that only such configurations are loaded. One with another root is
refused, and one with another project fails by whatever is wrong with it first.
-/

namespace Baseline.Configuration

open FileSystem
open Yaml (Value Graph)

variable {fs : FileSystem} {name text : String} {path root : Path} {address : Address}
  {bytes : List UInt8} {graph : Graph} {entry : Value} {entries items : List (Value × Value)}
  {values : List Value} {specs : List ProjectSpec} {config : Configuration} {spec : ProjectSpec}

/-- The root of a graph may be that of a configuration: it is null or a map. -/
def IsRoot (graph : Graph) : Prop :=
  graph.root = .null ∨ ∃ entries, graph.map? graph.root = some entries

/-- An entry may describe a project: it is a text or a map. -/
def IsEntry (graph : Graph) (entry : Value) : Prop :=
  (∃ name, entry = .text name) ∨ ∃ entries, graph.map? entry = some entries

/-- A configuration is accepted only if its root and its projects have their shapes and all projects
have names, and it is refused if its root or a project has another shape. -/
structure AcceptsWellShaped (fs : FileSystem) (path : Path) (graph : Graph) : Prop where
  root : ∀ config, load fs path = .ok config → IsRoot graph
  projects : ∀ config entries, load fs path = .ok config → graph.map? graph.root = some entries →
    ∀ entry ∈ projectEntries graph entries, IsEntry graph entry
  named : ∀ config, load fs path = .ok config → ∀ spec ∈ config.projects, spec.name ≠ ""
  refusesRoot : ¬IsRoot graph → ∃ refusal, load fs path = .error (.refused refusal)
  refusesEntry : ∀ entries, graph.map? graph.root = some entries →
    (∃ entry ∈ projectEntries graph entries, ¬IsEntry graph entry) →
    ∃ refusal, load fs path = .error (.refused refusal)

/-! ## Shapes of what is loaded -/

theorem Describes.isEntry (describes : Describes graph entry spec) : IsEntry graph entry := by
  cases describes with
  | name name => exact .inl ⟨name, rfl⟩
  | fields mapped => exact .inr ⟨_, mapped⟩

/-- Only the empty text describes a project without a name. -/
theorem Describes.name_eq_empty_iff (describes : Describes graph entry spec) :
    spec.name = "" ↔ entry = .text "" := by
  cases describes with
  | name name => simp
  | fields mapped _ filled =>
      refine ⟨fun empty => (filled empty).elim, ?_⟩
      rintro rfl
      contradiction

theorem isEntry_of_forall₂ (described : List.Forall₂ (Describes graph) values specs) :
    ∀ entry ∈ values, IsEntry graph entry := by
  induction described with
  | nil => simp
  | cons first _ induction =>
      intro entry member
      rcases List.mem_cons.mp member with rfl | member
      · exact first.isEntry
      · exact induction entry member

theorem named_iff_of_forall₂ (described : List.Forall₂ (Describes graph) values specs) :
    (∀ spec ∈ specs, spec.name ≠ "") ↔ .text "" ∉ values := by
  induction described with
  | nil => simp
  | cons first _ induction =>
      rw [List.forall_mem_cons, induction, List.mem_cons, not_or, ne_eq, first.name_eq_empty_iff,
        eq_comm]

theorem ofEntries_nil : ofEntries fs root graph [] = .ok (standard root) := by
  rw [ofEntries_eq]
  exact ofFields_eq_ok List.nodup_nil

theorem isTruthy_of_map (mapped : graph.map? entry = some entries) :
    graph.isTruthy entry = !entries.isEmpty := by
  cases entry with
  | cell number =>
      simp only [Graph.map?] at mapped
      split at mapped
      · rename_i content
        cases mapped
        simp only [Graph.isTruthy, content]
      · contradiction
  | _ => contradiction

theorem rootEntries?_of_map (mapped : graph.map? graph.root = some entries) :
    rootEntries? graph = some entries := by
  rw [rootEntries?, isTruthy_of_map mapped, mapped]
  cases entries <;> rfl

theorem map?_of_rootEntries? (rooted : rootEntries? graph = some entries) :
    graph.map? graph.root = some entries ∨ entries = [] := by
  rw [rootEntries?] at rooted
  split at rooted
  · exact .inl rooted
  · exact .inr (Option.some.inj rooted).symm

/-- A root of another shape is refused if it counts as something, and else it counts as none. -/
theorem ofGraph_of_not_isRoot (unshaped : ¬IsRoot graph) :
    ofGraph fs root graph =
      if graph.isTruthy graph.root then .error (.refused .notMapping) else .ok (standard root) := by
  have unmapped : graph.map? graph.root = none :=
    Option.eq_none_iff_forall_ne_some.mpr fun entries mapped => unshaped (.inr ⟨entries, mapped⟩)
  rw [ofGraph_eq, rootEntries?, unmapped]
  cases graph.isTruthy graph.root with
  | true => rfl
  | false => exact ofEntries_nil

theorem ofGraph_of_map (mapped : graph.map? graph.root = some entries) :
    ofGraph fs root graph = ofEntries fs root graph entries := by
  rw [ofGraph_eq, rootEntries?_of_map mapped]

/-- What is loaded of a graph lists the projects that its entries describe. -/
theorem projects_of_ofGraph (made : ofGraph fs root graph = .ok config) :
    ∃ entries, rootEntries? graph = some entries ∧
      List.Forall₂ (Describes graph) (projectEntries graph entries) config.projects := by
  rw [ofGraph_eq] at made
  split at made
  · exact ⟨_, ‹_›, (configured_of_ofEntries made).projects⟩
  · contradiction

/-! ## What is accepted -/

theorem forall₂_of_load (loads : load fs path = ofGraph fs root graph)
    (loaded : load fs path = .ok config) (mapped : graph.map? graph.root = some entries) :
    List.Forall₂ (Describes graph) (projectEntries graph entries) config.projects := by
  obtain ⟨others, rooted, described⟩ := projects_of_ofGraph (loads.symm.trans loaded)
  cases (rootEntries?_of_map mapped).symm.trans rooted
  exact described

theorem AcceptsWellShaped.isRoot_or_isTruthy (accepts : AcceptsWellShaped fs path graph)
    (loads : load fs path = ofGraph fs root graph) :
    IsRoot graph ∨ graph.isTruthy graph.root = true := by
  by_cases shaped : IsRoot graph
  · exact .inl shaped
  · obtain ⟨refusal, refused⟩ := accepts.refusesRoot shaped
    rw [loads, ofGraph_of_not_isRoot shaped] at refused
    split at refused
    · exact .inr ‹_›
    · contradiction

theorem AcceptsWellShaped.not_mem (accepts : AcceptsWellShaped fs path graph)
    (loads : load fs path = ofGraph fs root graph) (loaded : load fs path = .ok config)
    (mapped : graph.map? graph.root = some entries) : .text "" ∉ projectEntries graph entries :=
  (named_iff_of_forall₂ (forall₂_of_load loads loaded mapped)).mp (accepts.named config loaded)

theorem AcceptsWellShaped.exists_refusal {error : LoadError}
    (accepts : AcceptsWellShaped fs path graph) (loads : load fs path = ofGraph fs root graph)
    (mapped : graph.map? graph.root = some entries)
    (other : ∃ entry ∈ projectEntries graph entries, ¬IsEntry graph entry)
    (first : Except.FirstOf (checks fs root graph entries) error) :
    ∃ refusal, error = .refused refusal := by
  obtain ⟨refusal, refused⟩ := accepts.refusesEntry entries mapped other
  rw [loads, ofGraph_of_map mapped, ofEntries_eq_error_iff.mpr first] at refused
  exact ⟨refusal, Except.error.inj refused⟩

theorem acceptsWellShaped_of (loads : load fs path = ofGraph fs root graph)
    (rooted : IsRoot graph ∨ graph.isTruthy graph.root = true)
    (named : ∀ config entries, load fs path = .ok config →
      graph.map? graph.root = some entries → .text "" ∉ projectEntries graph entries)
    (refuses : ∀ entries, graph.map? graph.root = some entries →
      (∃ entry ∈ projectEntries graph entries, ¬IsEntry graph entry) →
      ∀ error, Except.FirstOf (checks fs root graph entries) error →
        ∃ refusal, error = .refused refusal) :
    AcceptsWellShaped fs path graph where
  root config loaded := by
    by_contra unshaped
    rw [loads, ofGraph_of_not_isRoot unshaped, if_pos (rooted.resolve_left unshaped)] at loaded
    contradiction
  projects config entries loaded mapped :=
    isEntry_of_forall₂ (forall₂_of_load loads loaded mapped)
  named config loaded := by
    obtain ⟨entries, found, described⟩ := projects_of_ofGraph (loads.symm.trans loaded)
    refine (named_iff_of_forall₂ described).mpr ?_
    rcases map?_of_rootEntries? found with mapped | rfl
    · exact named config entries loaded mapped
    · exact List.not_mem_nil
  refusesRoot unshaped := by
    rw [loads, ofGraph_of_not_isRoot unshaped, if_pos (rooted.resolve_left unshaped)]
    exact ⟨.notMapping, rfl⟩
  refusesEntry entries mapped other := by
    rw [loads, ofGraph_of_map mapped]
    cases made : ofEntries fs root graph entries with
    | ok config =>
        obtain ⟨entry, member, unshaped⟩ := other
        have described := (configured_of_ofEntries made).projects
        exact (unshaped (isEntry_of_forall₂ described entry member)).elim
    | error e =>
        obtain ⟨refusal, rfl⟩ := refuses entries mapped other e (ofEntries_eq_error_iff.mp made)
        exact ⟨refusal, rfl⟩

/-- From a text that is not blank and has a value, a configuration is loaded only if all its projects
are texts or maps, and it lists them in order. A root that is neither null nor a map is refused if it
counts as something; if not, the standard configuration is loaded. So only configurations of the
right shape are accepted exactly if such a root counts as something, no project of what is loaded is
the empty text, and what is wrong first with one that has another project is a refusal. -/
theorem acceptsWellShaped_iff (stored : fs.IsStorable)
    (named : NamesFile fs (.parse name) address bytes false) (decodes : textOf bytes = .ok text)
    (filled : Text.trimmed text ≠ "") (made : Graph.ofText text = .ok graph) :
    let root : Path := ⟨.single, address.dropLast⟩
    (∀ config, load fs (.parse name) = .ok config →
      ∃ entries, rootEntries? graph = some entries ∧
        (∀ entry ∈ projectEntries graph entries, IsEntry graph entry) ∧
        List.Forall₂ (Describes graph) (projectEntries graph entries) config.projects) ∧
    (¬IsRoot graph →
      load fs (.parse name) =
        if graph.isTruthy graph.root then .error (.refused .notMapping) else .ok (standard root)) ∧
    (AcceptsWellShaped fs (.parse name) graph ↔
      (IsRoot graph ∨ graph.isTruthy graph.root = true) ∧
      (∀ config entries, load fs (.parse name) = .ok config →
        graph.map? graph.root = some entries → .text "" ∉ projectEntries graph entries) ∧
      ∀ entries, graph.map? graph.root = some entries →
        (∃ entry ∈ projectEntries graph entries, ¬IsEntry graph entry) →
        ∀ error, Except.FirstOf (checks fs root graph entries) error →
          ∃ refusal, error = .refused refusal) := by
  intro root
  have loads : load fs (.parse name) = ofGraph fs root graph :=
    named.load_of_hasGraph stored (.document decodes filled made)
  refine ⟨?_, ?_, ?_⟩
  · intro config loaded
    obtain ⟨entries, rooted, described⟩ := projects_of_ofGraph (loads.symm.trans loaded)
    exact ⟨entries, rooted, isEntry_of_forall₂ described, described⟩
  · intro unshaped
    rw [loads, ofGraph_of_not_isRoot unshaped]
  · constructor
    · intro accepts
      exact ⟨accepts.isRoot_or_isTruthy loads, fun _ _ => accepts.not_mem loads,
        fun _ mapped other _ => accepts.exists_refusal loads mapped other⟩
    · rintro ⟨rooted, named, refuses⟩
      exact acceptsWellShaped_of loads rooted named refuses

/-- A configuration that is an empty list. -/
def emptyList : FileSystem :=
  { entries := [(["w"], .directory false),
      (["w", ".ruling.yml"], .file (Text.Utf8.encode "[]\n".toList) false)]
    current := ["w"]
    homes := [] }

theorem namesFile_emptyList :
    NamesFile emptyList (Path.parse ".") ["w", ".ruling.yml"]
      (Text.Utf8.encode "[]\n".toList) false where
  leads := by
    refine ⟨Path.parse ".", by decide, .inr ⟨["w"], .arrive, by decide, ?_⟩⟩
    exact leads_singleton (by decide) (by decide) nofun
  found := by decide

theorem textOf_emptyList : textOf (Text.Utf8.encode "[]\n".toList) = .ok "[]\n" := by
  decide +kernel

theorem ofText_emptyList : Graph.ofText "[]\n" = .ok ⟨[.list []], .cell 0⟩ := by decide +kernel

theorem not_isRoot_emptyList : ¬IsRoot ⟨[.list []], .cell 0⟩ := by
  rintro (empty | ⟨entries, mapped⟩) <;> contradiction

theorem acceptsWellShaped_iff_emptyList :
    emptyList.IsStorable ∧
      NamesFile emptyList (Path.parse ".") ["w", ".ruling.yml"]
        (Text.Utf8.encode "[]\n".toList) false ∧
      textOf (Text.Utf8.encode "[]\n".toList) = .ok "[]\n" ∧ Text.trimmed "[]\n" ≠ "" ∧
      Graph.ofText "[]\n" = .ok ⟨[.list []], .cell 0⟩ ∧
      load emptyList (Path.parse ".") = .ok (standard ⟨.single, ["w"]⟩) := by
  have stored : emptyList.IsStorable := by decide
  have filled : Text.trimmed "[]\n" ≠ "" := by decide
  have shape :=
    acceptsWellShaped_iff stored namesFile_emptyList textOf_emptyList filled ofText_emptyList
  exact ⟨stored, namesFile_emptyList, textOf_emptyList, filled, ofText_emptyList,
    shape.2.1 not_isRoot_emptyList⟩

/-- A configuration that is an empty list is loaded as if there were nothing in it. -/
theorem emptyList_not_acceptsWellShaped :
    emptyList.IsStorable ∧
      NamesFile emptyList (Path.parse ".") ["w", ".ruling.yml"]
        (Text.Utf8.encode "[]\n".toList) false ∧
      Graph.ofText "[]\n" = .ok ⟨[.list []], .cell 0⟩ ∧
      load emptyList (Path.parse ".") = .ok (standard ⟨.single, ["w"]⟩) ∧
      ¬AcceptsWellShaped emptyList (Path.parse ".") ⟨[.list []], .cell 0⟩ := by
  have stored : emptyList.IsStorable := by decide
  have has : HasGraph (Text.Utf8.encode "[]\n".toList) ⟨[.list []], .cell 0⟩ :=
    .document textOf_emptyList (by decide) ofText_emptyList
  have loaded : load emptyList (Path.parse ".") = .ok (standard ⟨.single, ["w"]⟩) := by
    rw [namesFile_emptyList.load_of_hasGraph stored has, ofGraph_of_not_isRoot not_isRoot_emptyList]
    rfl
  exact ⟨stored, namesFile_emptyList, ofText_emptyList, loaded,
    fun accepts => not_isRoot_emptyList (accepts.root _ loaded)⟩

end Baseline.Configuration
