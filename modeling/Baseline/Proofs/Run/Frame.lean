import Baseline.Proofs.Configuration.Loading
import Baseline.Proofs.Discovery.Collection
import Baseline.Proofs.Run.Stages

/-!
# What a run may change

A run is to change nothing but the directory of its own results, below that of all results. This
file says exactly when it does so. Names of projects are not restricted, so the directory of one may
be that of all results, or hold sources or the results of other projects.
-/

namespace Baseline.Run

open FileSystem

variable {fs after : FileSystem} {config : Configuration} {analyzers : AnalyzerSet}
  {spec : ProjectSpec} {rules : List RuleSetting} {address own : Address} {last : Bool} {path : Path}

/-- A pass over a project or over one of its test directories takes the file at a path. -/
def Discovered (fs : FileSystem) (config : Configuration) (spec : ProjectSpec) (path : Path) :
    Prop :=
  ∃ root, (root = projectDirectory fs config spec ∨
      ∃ directory ∈ spec.testDirs,
        root = fs.absolute ((projectDirectory fs config spec).below directory)) ∧
    fs.Under root path ∧ Discovery.Takes fs (passFor none config spec) root path

/-- What a run on a project must keep: the sources that it finds, and what lies in the directories
of results of other projects. -/
inductive Protected (fs : FileSystem) (config : Configuration) (spec : ProjectSpec) :
    Address → Prop where
  | source {path : Path} {last : Bool} {address : Address} :
      Discovered fs config spec path → fs.LeadsTo last path address →
      Protected fs config spec address
  | result {other : ProjectSpec} {above address : Address} :
      other ∈ config.projects → other.name ≠ spec.name →
      fs.LeadsTo true (targetOf config other) above → isBelow above address = true →
      fs.find? address ≠ none → fs.hasDirectory address = false →
      Protected fs config spec address

/-- A run that has written to a directory keeps everything else as it was. -/
structure KeepsFrame (fs : FileSystem) (config : Configuration) (spec : ProjectSpec)
    (after : FileSystem) (own : Address) : Prop where
  /-- The directory lies strictly below that of all results. -/
  below : ∃ above, after.LeadsTo true config.results above ∧ isBelow above own = true
  /-- What is changed is the directory, or a missing one that was made above it. -/
  inside : ∀ address, after.find? address ≠ fs.find? address →
    own <+: address ∨ fs.find? address = none ∧ after.hasDirectory address = true ∧
      ∃ prior, prior.IsAbove (targetOf config spec) ∧ after.LeadsTo true prior address
  /-- Sources and the results of other projects are not changed. -/
  kept : ∀ address, Protected fs config spec address → after.find? address = fs.find? address

theorem Protected.stands (guarded : Protected fs config spec address) :
    fs.find? address ≠ none ∧ fs.hasDirectory address = false := by
  cases guarded with
  | source found leads =>
      obtain ⟨root, -, under, -⟩ := found
      exact leads.stands_of_leadsToFile under.leadsToFile
  | result _ _ _ _ present free => exact ⟨present, free⟩

/-- Where the directory was there before, what must be kept is kept unless it lies in the directory
and is not written again as it was. -/
theorem keepsFrame_iff_of_replaced {listing : Listing} (room : fs.hasDirectory own = true)
    (nodup : (listing.map Prod.fst).Nodup) (replaced : Results.Replaced fs own listing after) :
    KeepsFrame fs config spec after own ↔
      (∃ above, after.LeadsTo true config.results above ∧ isBelow above own = true) ∧
        ∀ address, Protected fs config spec address → isBelow own address = true →
          ∃ name files, (name, files) ∈ listing ∧ address = own ++ [name ++ ".json"] ∧
            fs.find? address = some (Results.fileOf files) := by
  constructor
  · rintro ⟨below, -, kept⟩
    refine ⟨below, ?_⟩
    intro address guarded inside
    obtain ⟨names, names_ne, rfl⟩ := isBelow_iff.mp inside
    obtain ⟨entry, found⟩ := Option.ne_none_iff_exists'.mp guarded.stands.1
    have same := kept _ guarded
    rw [replaced.inside names names_ne, found] at same
    obtain ⟨name, files, member, rfl, rfl⟩ := Results.entryBelow?_eq_some same
    exact ⟨name, files, member, rfl, found⟩
  · rintro ⟨below, again⟩
    refine ⟨below, ?_, ?_⟩
    · intro address changed
      refine .inl (not_not.mp fun outside => ?_)
      exact changed (replaced.outside address outside)
    · intro address guarded
      by_cases inside : own <+: address
      · rcases prefix_iff_eq_or_isBelow.mp inside with rfl | deeper
        · rw [guarded.stands.2] at room
          contradiction
        · obtain ⟨name, files, member, rfl, found⟩ := again address guarded deeper
          rw [replaced.inside _ (by simp), Results.entryBelow?_of_mem nodup member, found]
      · exact replaced.outside address inside

/-- Where the path of the directory led nowhere before, what must be kept is kept unless a path of
the listing leads there and it is not written again as it was. -/
theorem keepsFrame_iff_of_writes {made : FileSystem} {listing : Listing} (housed : fs.IsHoused)
    (absolute : (targetOf config spec).isAbsolute = true)
    (makes : Makes (targetOf config spec) fs made)
    (writes : Results.Writes made (targetOf config spec) listing after) :
    KeepsFrame fs config spec after own ↔
      (∃ above, after.LeadsTo true config.results above ∧ isBelow above own = true) ∧
        ∀ file ∈ listing.map (fun entry => Results.filePath (targetOf config spec) entry.1),
          ∀ address, after.LeadsTo true file address →
            after.find? address = fs.find? address ∨
              own <+: address ∧ ¬Protected fs config spec address := by
  have begun : fs.hasDirectory (fs.startOf (targetOf config spec)) = true :=
    hasDirectory_startOf_of_isAbsolute absolute
  obtain ⟨-, -, adds⟩ := makes.grows housed begun
  constructor
  · rintro ⟨below, inside, kept⟩
    refine ⟨below, ?_⟩
    intro file member address leads
    obtain ⟨entry, listed, rfl⟩ := List.mem_map.mp member
    refine or_iff_not_imp_left.mpr fun changed => ⟨?_, fun guarded => changed (kept _ guarded)⟩
    rcases inside address changed with within | ⟨-, room, -⟩
    · exact within
    · obtain ⟨place, bytes, locked, leadsFile, found⟩ := writes.filed entry listed
      obtain rfl := leads.unique leadsFile
      rw [hasDirectory_of_file found] at room
      contradiction
  · rintro ⟨below, written⟩
    have reached {address : Address} (differs : after.find? address ≠ made.find? address) :
        after.find? address = fs.find? address ∨
          own <+: address ∧ ¬Protected fs config spec address := by
      rcases writes.frame address with same | ⟨entry, listed, leads⟩
      · exact (differs same).elim
      · exact written _ (List.mem_map_of_mem listed) address leads
    refine ⟨below, ?_, ?_⟩
    · intro address changed
      by_cases same : after.find? address = made.find? address
      · rcases adds address with before | ⟨absent, room⟩
        · exact (changed (same.trans before)).elim
        · obtain ⟨prior, higher, leads⟩ := makes.exists_isAbove housed begun absent room
          exact .inr ⟨absent, writes.embeds.hasDirectory room, prior, higher,
            leads.embed_of_hasDirectory writes.embeds writes.current room⟩
      · rcases reached same with unchanged | ⟨within, -⟩
        · exact (changed unchanged).elim
        · exact .inl within
    · intro address guarded
      by_cases same : after.find? address = made.find? address
      · rcases adds address with before | ⟨absent, -⟩
        · exact same.trans before
        · exact (guarded.stands.1 absent).elim
      · rcases reached same with unchanged | ⟨-, free⟩
        · exact unchanged
        · exact (free guarded).elim

/-- A run that has a result has written to a directory. If the path of the directory led there
before, the run keeps everything else exactly if the directory lies strictly below that of all
results and holds nothing that must be kept, but for what is written again as it was. If the path
led nowhere, the run does so exactly if the directory lies strictly below that of all results and
the files of the listing are in it, not in the place of what must be kept, or change nothing. -/
theorem run_keepsFrame_iff {place : Path} {before : FileSystem} {result : Result}
    (tree : fs.IsTree) (loaded : Configuration.load before place = .ok config)
    (returned : (run fs none config analyzers spec rules).result = .ok result) :
    let target := targetOf config spec
    let listing := listingFor fs config spec result.report
    let after := (run fs none config analyzers spec rules).fs
    ∃ own, after.LeadsTo true target own ∧ after.hasDirectory own = true ∧
      (fs.pathExists target = .ok true →
        (KeepsFrame fs config spec after own ↔
          (∃ above, after.LeadsTo true config.results above ∧ isBelow above own = true) ∧
          ∀ address, Protected fs config spec address → isBelow own address = true →
            ∃ name files, (name, files) ∈ listing ∧ address = own ++ [name ++ ".json"] ∧
              fs.find? address = some (Results.fileOf files))) ∧
      (fs.pathExists target = .ok false →
        (KeepsFrame fs config spec after own ↔
          (∃ above, after.LeadsTo true config.results above ∧ isBelow above own = true) ∧
          ∀ file ∈ result.written, ∀ address, after.LeadsTo true file address →
            after.find? address = fs.find? address ∨
              own <+: address ∧ ¬Protected fs config spec address)) := by
  intro target listing after
  have absolute : target.isAbsolute = true :=
    isAbsolute_targetOf (Configuration.isAbsolute_of_load loaded)
  have named : ∀ entry ∈ listing, Results.IsRuleName entry.1 := isRuleName_of_mem_listingFor
  have nodup : (listing.map Prod.fst).Nodup := Results.nodup_ofReport _ _ _
  obtain ⟨unfailed, same, paths⟩ := replace_of_returned returned
  rw [paths, show after = _ from same]
  cases there : fs.pathExists target with
  | error e =>
      obtain ⟨stopped, -⟩ := @Results.replace_of_error fs target listing e there
      cases unfailed.symm.trans stopped
  | ok found =>
      cases found with
      | true =>
          by_cases inside : ∃ own, fs.LeadsTo false target own ∧ fs.hasDirectory own = true
          · obtain ⟨own, leads, room⟩ := inside
            have free : ¬fs.IsBarred own := fun barred =>
              (Results.replace_of_isBarred tree.isHoused there leads barred).1 unfailed
            obtain ⟨written, -, replaced, finished⟩ := Results.replace_of_hasDirectory
              tree.isHoused absolute there leads room free named nodup
            obtain ⟨rfl, -, leadsAfter, roomAfter⟩ := finished unfailed
            refine ⟨own, leadsAfter, roomAfter, fun _ => ?_, by simp⟩
            exact keepsFrame_iff_of_replaced room nodup replaced
          · have outside : ∀ own, fs.LeadsTo false target own → fs.hasDirectory own = false := by
              simpa using inside
            obtain ⟨stopped, -⟩ :=
              @Results.replace_of_not_hasDirectory fs target listing there outside
            exact (stopped unfailed).elim
      | false =>
          obtain ⟨made, written, makes, -, writes, finished⟩ :=
            @Results.replace_of_missing fs target listing tree.isHoused absolute there
          obtain ⟨rfl, paths, own, leads, room⟩ := finished unfailed
          refine ⟨own, leads, room, by simp, fun _ => ?_⟩
          rw [paths]
          exact keepsFrame_iff_of_writes tree.isHoused absolute makes writes

deriving instance DecidableEq for Configuration

/-- A configuration with a project whose name is empty, and results of another project. -/
def namelessProject : FileSystem :=
  { entries := [(["w"], .directory false),
      (["w", ".ruling.yml"], .file (Text.Utf8.encode "projects: ['', p]".toList) false),
      (["w", "sources"], .directory false), (["w", "sources", "p"], .directory false),
      (["w", "actual"], .directory false), (["w", "actual", "p"], .directory false),
      (["w", "actual", "p", "javascript-S1.json"], .file [123, 125] false)]
    current := ["w"]
    homes := [] }

/-- What is loaded from the configuration. -/
def namelessConfiguration : Configuration :=
  { Configuration.standard (Path.parse "/w") with projects := [{ name := "" }, { name := "p" }] }

theorem load_namelessProject :
    Configuration.load namelessProject (Path.parse ".") = .ok namelessConfiguration := by
  have loads : (Configuration.load namelessProject (Path.parse ".")).toOption =
      some namelessConfiguration := by decide +kernel
  cases loaded : Configuration.load namelessProject (Path.parse ".") with
  | error e => simp [loaded, Except.toOption] at loads
  | ok config =>
      simp only [loaded, Except.toOption, Option.some.injEq] at loads
      rw [loads]

/-- The run on one of the projects. -/
def namelessRun (name : String) : Outcome :=
  run namelessProject none namelessConfiguration {} { name } []

theorem run_keepsFrame_iff_namelessRun :
    namelessProject.IsTree ∧ ∃ result own, (namelessRun "p").result = .ok result ∧
      (namelessRun "p").fs.LeadsTo true (Path.parse "/w/actual/p") own ∧
      (KeepsFrame namelessProject namelessConfiguration { name := "p" } (namelessRun "p").fs own ↔
        (∃ above, (namelessRun "p").fs.LeadsTo true (Path.parse "/w/actual") above ∧
          isBelow above own = true) ∧
        ∀ address, Protected namelessProject namelessConfiguration { name := "p" } address →
          isBelow own address = true →
            ∃ name files,
              (name, files) ∈ listingFor namelessProject namelessConfiguration { name := "p" }
                result.report ∧ address = own ++ [name ++ ".json"] ∧
              namelessProject.find? address = some (Results.fileOf files)) := by
  have tree : namelessProject.IsTree := by decide
  have ends : (namelessRun "p").result.isOk = true := by decide +kernel
  have there : namelessProject.pathExists (Path.parse "/w/actual/p") = .ok true := by
    decide +kernel
  have target : targetOf namelessConfiguration { name := "p" } = Path.parse "/w/actual/p" := by
    decide +kernel
  obtain ⟨result, returned⟩ := Except.exists_of_isOk ends
  obtain ⟨own, leads, -, cleared, -⟩ := run_keepsFrame_iff tree load_namelessProject returned
  rw [target] at leads cleared
  exact ⟨tree, result, own, returned, leads, cleared there⟩

/-- The run on the nameless project removes the results of the other one. -/
theorem namelessRun_not_keepsFrame :
    Configuration.load namelessProject (Path.parse ".") = .ok namelessConfiguration ∧
      { name := "" } ∈ namelessConfiguration.projects ∧
      (∃ result, (namelessRun "").result = .ok result) ∧
      ∀ own, ¬KeepsFrame namelessProject namelessConfiguration { name := "" }
        (namelessRun "").fs own := by
  have ends : (namelessRun "").result.isOk = true := by decide +kernel
  have located : namelessProject.locate true (targetOf namelessConfiguration { name := "p" }) =
      .ok ⟨["w", "actual", "p"], some (.directory false)⟩ := by decide +kernel
  have guarded : Protected namelessProject namelessConfiguration { name := "" }
      ["w", "actual", "p", "javascript-S1.json"] :=
    .result (show { name := "p" } ∈ namelessConfiguration.projects by decide) (by decide)
      (locate_eq_ok_iff.mp located).1 (by decide) (by decide) (by decide)
  refine ⟨load_namelessProject, by decide, Except.exists_of_isOk ends, ?_⟩
  intro own keeps
  have gone : (namelessRun "").fs.find? ["w", "actual", "p", "javascript-S1.json"] = none := by
    decide +kernel
  have same := keeps.kept _ guarded
  rw [gone] at same
  contradiction

end Baseline.Run
