import Baseline.Analyzer.Registry
import Baseline.Proofs.Except
import Mathlib.Data.List.Induction

/-!
# Which analyzers a registry gives

What a family gets is made of what the caller gives for it, or else of what the last plug-in of its
name offers, or else it is built in; nothing is passed over, and the first thing that goes wrong
decides why there are no analyzers. A failure of a call is not told as one of the configuration, nor
is a failure to load that does not tell its reason.
-/

namespace Baseline

theorem Family.ofName?_eq_some_iff {name : String} {family : Family} :
    Family.ofName? name = some family ↔ family.name = name := by
  constructor
  · intro found
    simpa using List.find?_some found
  · rintro rfl
    cases family <;> decide

namespace Registry

variable {family : Family} {offer : Offer} {analyzer : AnyAnalyzer} {analyzers : AnalyzerSet}
  {plugin : Plugin} {plugins : List Plugin} {given : List (Family × Offer)} {error : Error}
  {text : String}

/-! ## What is made of an offer -/

/-- The analyzer that an offer is by itself. -/
def Offer.self? : Offer → Option AnyAnalyzer
  | .instance analyzer | .callable analyzer _ => some analyzer
  | _ => none

/-- What comes of calling an offer, if it can be called. -/
def Offer.call? : Offer → Option Call
  | .callable _ call => some call
  | .kind analyzer => some (.ok (some analyzer))
  | .factory made => some (.ok made)
  | .abstractKind text | .failingFactory text => some (.error text)
  | _ => none

/-- An offer is by itself an analyzer for a family. -/
def Offer.Suits (offer : Offer) (family : Family) : Prop :=
  ∃ analyzer, offer.self? = some analyzer ∧ suits family analyzer = true

/-- An offer makes an analyzer for a family: itself, or what comes of calling it. -/
inductive Offer.Makes (offer : Offer) (family : Family) (analyzer : AnyAnalyzer) : Prop
  | itself (is : offer.self? = some analyzer) (suited : suits family analyzer = true)
  | called (other : ¬offer.Suits family) (gives : offer.call? = some (.ok (some analyzer)))
      (suited : suits family analyzer = true)

/-- What goes wrong with an offer for a family: its call fails, or there is no analyzer for the
family in it. -/
inductive Offer.Fails (offer : Offer) (family : Family) : Error → Prop
  | breaks {text : String} (other : ¬offer.Suits family) (fails : offer.call? = some (.error text)) :
      offer.Fails family (.factory text)
  | unsuitable (other : ¬offer.Suits family) (returns : ∀ text, offer.call? ≠ some (.error text))
      (useless : ∀ analyzer, offer.call? = some (.ok (some analyzer)) →
        suits family analyzer = false) :
      offer.Fails family (.unsuitable family)

theorem accept_of_self (is : offer.self? = some analyzer) (suited : suits family analyzer = true) :
    accept family offer = .ok analyzer := by
  cases offer <;> cases is <;> exact if_pos suited

/-- An offer that is no analyzer for a family is called, if that is possible. -/
theorem accept_of_not_suits (other : ¬offer.Suits family) :
    accept family offer = offer.call?.elim (.error (.unsuitable family)) (called family) := by
  cases offer with
  | «instance» analyzer | callable analyzer call =>
      exact if_neg fun suited => other ⟨analyzer, rfl, suited⟩
  | _ => rfl

theorem called_eq_ok_iff {call : Call} :
    called family call = .ok analyzer ↔ call = .ok (some analyzer) ∧ suits family analyzer = true := by
  rcases call with text | _ | made
  · simp [called]
  · simp [called]
  · by_cases suited : suits family made = true
    · rw [called, if_pos suited]
      simp only [Except.ok.injEq, Option.some.injEq, iff_self_and]
      rintro rfl
      exact suited
    · rw [called, if_neg suited]
      refine ⟨nofun, ?_⟩
      rintro ⟨same, suits⟩
      cases same
      exact absurd suits suited

theorem called_eq_error_iff {call : Call} :
    called family call = .error error ↔
      (∃ text, call = .error text ∧ error = .factory text) ∨
        ((∀ text, call ≠ .error text) ∧
          (∀ analyzer, call = .ok (some analyzer) → suits family analyzer = false) ∧
          error = .unsuitable family) := by
  rcases call with text | _ | made
  · simp [called, eq_comm (a := error)]
  · simp [called, eq_comm (a := error)]
  · by_cases suited : suits family made = true
    · simp [called, suited]
    · simp [called, suited, eq_comm (a := error)]

theorem accept_eq_ok_iff : accept family offer = .ok analyzer ↔ offer.Makes family analyzer := by
  by_cases itself : offer.Suits family
  · obtain ⟨own, is, suited⟩ := itself
    rw [accept_of_self is suited]
    constructor
    · rintro same
      cases same
      exact .itself is suited
    · rintro (⟨is', -⟩ | ⟨other, -, -⟩)
      · cases is.symm.trans is'
        rfl
      · exact absurd ⟨own, is, suited⟩ other
  · rw [accept_of_not_suits itself]
    constructor
    · intro accepted
      cases gives : offer.call? with
      | none => simp [gives] at accepted
      | some call =>
          rw [gives, Option.elim_some, called_eq_ok_iff] at accepted
          exact .called itself (accepted.1 ▸ gives) accepted.2
    · rintro (⟨is, suited⟩ | ⟨-, gives, suited⟩)
      · exact absurd ⟨analyzer, is, suited⟩ itself
      · rw [gives, Option.elim_some, called_eq_ok_iff]
        exact ⟨rfl, suited⟩

theorem accept_eq_error_iff : accept family offer = .error error ↔ offer.Fails family error := by
  by_cases itself : offer.Suits family
  · obtain ⟨own, is, suited⟩ := itself
    rw [accept_of_self is suited]
    refine ⟨nofun, ?_⟩
    rintro (⟨other, -⟩ | ⟨other, -, -⟩) <;> exact absurd ⟨own, is, suited⟩ other
  · rw [accept_of_not_suits itself]
    constructor
    · intro refused
      cases gives : offer.call? with
      | none =>
          rw [gives, Option.elim_none] at refused
          cases refused
          exact .unsuitable itself (by simp [gives]) (by simp [gives])
      | some call =>
          rw [gives, Option.elim_some, called_eq_error_iff] at refused
          rcases refused with ⟨text, rfl, rfl⟩ | ⟨returns, useless, rfl⟩
          · exact .breaks itself gives
          · refine .unsuitable itself ?_ ?_
            · simpa [gives] using returns
            · simpa [gives] using useless
    · rintro (⟨-, fails⟩ | ⟨-, returns, useless⟩)
      · rw [fails]
        rfl
      · cases gives : offer.call? with
        | none => rfl
        | some call =>
            rw [Option.elim_some, called_eq_error_iff]
            refine .inr ⟨?_, ?_, rfl⟩
            · simpa [gives] using returns
            · simpa [gives] using useless

/-! ## What a plug-in adds -/

/-- A plug-in is listed under the name of a family, in whatever case. -/
def Plugin.IsFor (plugin : Plugin) (family : Family) : Prop :=
  family.name = Text.lowered plugin.name

instance (plugin : Plugin) (family : Family) : Decidable (plugin.IsFor family) :=
  inferInstanceAs (Decidable (family.name = Text.lowered plugin.name))

/-- What goes wrong with a plug-in. -/
inductive Plugin.Fails (plugin : Plugin) : Error → Prop
  | unknownFamily (nameless : ∀ family, ¬plugin.IsFor family) :
      plugin.Fails (.unknownFamily plugin.name)
  | loading {family : Family} {reason : String} (named : plugin.IsFor family)
      (fails : plugin.load = .error (.failed (.ok reason))) :
      plugin.Fails (.loading plugin.name reason)
  | unspoken {family : Family} {escape : Escape} (named : plugin.IsFor family)
      (fails : plugin.load = .error (.failed (.error escape))) : plugin.Fails (.unspoken escape)
  | exit {family : Family} (named : plugin.IsFor family) (exits : plugin.load = .error .exit) :
      plugin.Fails .exit
  | offer {family : Family} {offer : Offer} {error : Error} (named : plugin.IsFor family)
      (loads : plugin.load = .ok offer) (fails : offer.Fails family error) : plugin.Fails error

theorem install_eq_ok_iff {next : AnalyzerSet} :
    install analyzers family offer = .ok next ↔
      ∃ analyzer, offer.Makes family analyzer ∧ next = assign analyzers family analyzer := by
  simp only [← accept_eq_ok_iff, install]
  cases accept family offer <;> simp [Except.map, eq_comm]

theorem install_eq_error_iff :
    install analyzers family offer = .error error ↔ offer.Fails family error := by
  rw [← accept_eq_error_iff, install]
  cases accept family offer <;> simp [Except.map]

theorem Plugin.IsFor.unique {other : Family} (named : plugin.IsFor family)
    (also : plugin.IsFor other) : family = other := by
  have found := Family.ofName?_eq_some_iff.mpr named
  rw [Family.ofName?_eq_some_iff.mpr also, Option.some.injEq] at found
  exact found.symm

theorem addPlugin_of_nameless (nameless : ∀ family, ¬plugin.IsFor family) :
    addPlugin analyzers plugin = .error (.unknownFamily plugin.name) := by
  have none : Family.ofName? (Text.lowered plugin.name) = none :=
    Option.eq_none_iff_forall_ne_some.mpr fun family found =>
      nameless family (Family.ofName?_eq_some_iff.mp found)
  rw [addPlugin, Plugin.offered, none]
  rfl

theorem addPlugin_of_loads (named : plugin.IsFor family) (loads : plugin.load = .ok offer) :
    addPlugin analyzers plugin = install analyzers family offer := by
  rw [addPlugin, Plugin.offered, Family.ofName?_eq_some_iff.mpr named, loads]
  rfl

theorem addPlugin_of_failed {reason : String} (named : plugin.IsFor family)
    (fails : plugin.load = .error (.failed (.ok reason))) :
    addPlugin analyzers plugin = .error (.loading plugin.name reason) := by
  rw [addPlugin, Plugin.offered, Family.ofName?_eq_some_iff.mpr named, fails]
  rfl

theorem addPlugin_of_unspoken {escape : Escape} (named : plugin.IsFor family)
    (fails : plugin.load = .error (.failed (.error escape))) :
    addPlugin analyzers plugin = .error (.unspoken escape) := by
  rw [addPlugin, Plugin.offered, Family.ofName?_eq_some_iff.mpr named, fails]
  rfl

theorem addPlugin_of_exit (named : plugin.IsFor family) (exits : plugin.load = .error .exit) :
    addPlugin analyzers plugin = .error .exit := by
  rw [addPlugin, Plugin.offered, Family.ofName?_eq_some_iff.mpr named, exits]
  rfl

/-- A plug-in that is loaded has its offer installed for the family that it is listed under. Any other
fails. -/
theorem addPlugin_cases (analyzers : AnalyzerSet) (plugin : Plugin) :
    (∃ family offer, plugin.IsFor family ∧ plugin.load = .ok offer ∧
        addPlugin analyzers plugin = install analyzers family offer) ∨
      ∃ error, plugin.Fails error ∧ addPlugin analyzers plugin = .error error := by
  by_cases named : ∃ family, plugin.IsFor family
  · obtain ⟨family, named⟩ := named
    rcases loads : plugin.load with ((escape | reason) | _) | offer
    · exact .inr ⟨_, .unspoken named loads, addPlugin_of_unspoken named loads⟩
    · exact .inr ⟨_, .loading named loads, addPlugin_of_failed named loads⟩
    · exact .inr ⟨_, .exit named loads, addPlugin_of_exit named loads⟩
    · exact .inl ⟨family, offer, named, rfl, addPlugin_of_loads named loads⟩
  · have nameless := not_exists.mp named
    exact .inr ⟨_, .unknownFamily nameless, addPlugin_of_nameless nameless⟩

theorem addPlugin_eq_error_iff :
    addPlugin analyzers plugin = .error error ↔ plugin.Fails error := by
  constructor
  · intro failed
    rcases addPlugin_cases analyzers plugin with
      ⟨family, offer, named, loads, adds⟩ | ⟨other, fails, breaks⟩
    · rw [adds, install_eq_error_iff] at failed
      exact .offer named loads failed
    · cases failed.symm.trans breaks
      exact fails
  · intro fails
    cases fails with
    | unknownFamily nameless => exact addPlugin_of_nameless nameless
    | loading named fails => exact addPlugin_of_failed named fails
    | unspoken named fails => exact addPlugin_of_unspoken named fails
    | exit named exits => exact addPlugin_of_exit named exits
    | offer named loads fails =>
        rw [addPlugin_of_loads named loads, install_eq_error_iff]
        exact fails

/-- A plug-in that adds something is loaded, and its family gets what is made of its offer. -/
theorem exists_of_addPlugin {next : AnalyzerSet} (added : addPlugin analyzers plugin = .ok next) :
    ∃ family offer, plugin.IsFor family ∧ plugin.load = .ok offer ∧
      install analyzers family offer = .ok next := by
  rcases addPlugin_cases analyzers plugin with
    ⟨family, offer, named, loads, adds⟩ | ⟨error, -, breaks⟩
  · exact ⟨family, offer, named, loads, adds.symm.trans added⟩
  · cases added.symm.trans breaks

/-! ## What a family gets -/

/-- The analyzer that a set of analyzers holds for a family. -/
def held (analyzers : AnalyzerSet) : Family → Option AnyAnalyzer
  | .script => analyzers.script.map .batch
  | .markup => analyzers.markup.map .file
  | .data => analyzers.data.map .file

@[simp] theorem held_assign (analyzers : AnalyzerSet) (family other : Family)
    (analyzer : AnyAnalyzer) :
    held (assign analyzers family analyzer) other =
      if other = family then analyzer.as? family else held analyzers other := by
  cases family <;> cases other <;> rfl

/-- The offer that counts for a family: what the caller gives for it, or else what the last plug-in
of its name offers. Of several things that are given for a family the last one counts. -/
def offerFor (plugins : List Plugin) (given : List (Family × Offer)) (family : Family) :
    Option Offer :=
  (given.reverse.lookup family).or
    ((plugins.reverse.find? fun plugin => plugin.IsFor family).bind fun plugin =>
      plugin.load.toOption)

theorem offerFor_add_plugin (plugins : List Plugin) (plugin : Plugin) (family : Family) :
    offerFor (plugins ++ [plugin]) [] family =
      if plugin.IsFor family then plugin.load.toOption else offerFor plugins [] family := by
  by_cases named : plugin.IsFor family <;> simp [offerFor, named]

theorem offerFor_add_given (plugins : List Plugin) (given : List (Family × Offer))
    (family : Family) (offer : Offer) (other : Family) :
    offerFor plugins (given ++ [(family, offer)]) other =
      if other = family then some offer else offerFor plugins given other := by
  by_cases same : other = family
  · simp [offerFor, same]
  · have differs : (other == family) = false := by simpa using same
    simp [offerFor, List.lookup_cons, same, differs]

/-- Each family has an analyzer of its kind made of the offer that counts for it, or what is built in
if there is no such offer. -/
structure IsAssembled (plugins : List Plugin) (given : List (Family × Offer))
    (analyzers : AnalyzerSet) : Prop where
  made : ∀ family offer, offerFor plugins given family = some offer →
    ∃ analyzer, offer.Makes family analyzer ∧ held analyzers family = analyzer.as? family
  builtIn : ∀ family, offerFor plugins given family = none →
    held analyzers family = held builtIn family

theorem isAssembled_builtIn : IsAssembled [] [] builtIn := ⟨nofun, fun _ _ => rfl⟩

/-- An offer that is installed for a family comes to count for it, and for no other. -/
theorem IsAssembled.install {next : AnalyzerSet} {more : List Plugin}
    {further : List (Family × Offer)} (assembled : IsAssembled plugins given analyzers)
    (installed : Registry.install analyzers family offer = .ok next)
    (counts : ∀ other, offerFor more further other =
      if other = family then some offer else offerFor plugins given other) :
    IsAssembled more further next := by
  obtain ⟨analyzer, makes, rfl⟩ := install_eq_ok_iff.mp installed
  constructor
  · intro other offered found
    rw [counts] at found
    rw [held_assign]
    split at found
    · rename_i same
      cases found
      rw [if_pos same, same]
      exact ⟨analyzer, makes, rfl⟩
    · rename_i differs
      rw [if_neg differs]
      exact assembled.made other offered found
  · intro other found
    rw [counts] at found
    rw [held_assign]
    split at found
    · cases found
    · rename_i differs
      rw [if_neg differs]
      exact assembled.builtIn other found

theorem isAssembled_of_plugins
    (added : plugins.foldlM addPlugin builtIn = .ok analyzers) :
    IsAssembled plugins [] analyzers := by
  induction plugins using List.reverseRecOn generalizing analyzers with
  | nil =>
      cases added
      exact isAssembled_builtIn
  | append_singleton plugins plugin induction =>
      obtain ⟨before, earlier, adds⟩ := Except.exists_of_foldlM_concat_eq_ok added
      obtain ⟨family, offer, named, loads, installed⟩ := exists_of_addPlugin adds
      refine (induction earlier).install installed fun other => ?_
      rw [offerFor_add_plugin, loads]
      by_cases also : plugin.IsFor other
      · rw [if_pos also, if_pos (also.unique named)]
        rfl
      · have differs : other ≠ family := by
          rintro rfl
          exact also named
        rw [if_neg also, if_neg differs]

theorem isAssembled_of_given {start : AnalyzerSet} (assembled : IsAssembled plugins [] start)
    (installed : given.foldlM
      (fun analyzers (family, offer) => install analyzers family offer) start = .ok analyzers) :
    IsAssembled plugins given analyzers := by
  induction given using List.reverseRecOn generalizing analyzers with
  | nil =>
      cases installed
      exact assembled
  | append_singleton given entry induction =>
      obtain ⟨before, earlier, adds⟩ := Except.exists_of_foldlM_concat_eq_ok installed
      exact (induction earlier).install adds fun other => offerFor_add_given ..

/-- A registry that gives analyzers gives those that count. -/
theorem isAssembled_of_discover (found : discover plugins given = .ok analyzers) :
    IsAssembled plugins given analyzers := by
  obtain ⟨start, added, installed⟩ := Except.exists_of_bind_eq_ok found
  exact isAssembled_of_given (isAssembled_of_plugins added) installed

/-! ## What goes wrong first -/

/-- What goes wrong first with plug-ins, in their order, and then with what the caller gives. -/
def FailsFirst (plugins : List Plugin) (given : List (Family × Offer)) : Error → Prop :=
  Except.FirstOf (plugins.map Plugin.Fails ++ given.map fun entry => entry.2.Fails entry.1)

theorem discover_eq_error_iff :
    discover plugins given = .error error ↔ FailsFirst plugins given error := by
  have installs (analyzers : AnalyzerSet) (entry : Family × Offer) (error : Error) :
      install analyzers entry.1 entry.2 = .error error ↔ entry.2.Fails entry.1 error :=
    install_eq_error_iff
  have plugins_fail (analyzers : AnalyzerSet) (plugin : Plugin) (error : Error) :
      addPlugin analyzers plugin = .error error ↔ plugin.Fails error := addPlugin_eq_error_iff
  exact Except.foldlM_bind_eq_error_iff plugins_fail (Except.foldlM_eq_error_iff installs) builtIn

/-- A registry gives the analyzers that count, or an error of the configuration. -/
def Answers (plugins : List Plugin) (given : List (Family × Offer)) : Prop :=
  (∃ analyzers, discover plugins given = .ok analyzers ∧ IsAssembled plugins given analyzers) ∨
    ∃ error, discover plugins given = .error error ∧ error.isReported = true

/-- What a registry gives are the analyzers that count, and why it gives none is what goes wrong
first. So it answers as it should unless that is a failing call, a failure to load that does not
tell its reason, or a plug-in that asks for the end of the program. -/
theorem discover_answers_iff (plugins : List Plugin) (given : List (Family × Offer)) :
    (∀ analyzers, discover plugins given = .ok analyzers → IsAssembled plugins given analyzers) ∧
      (∀ error, discover plugins given = .error error ↔ FailsFirst plugins given error) ∧
      (Answers plugins given ↔
        (∀ text, ¬FailsFirst plugins given (.factory text)) ∧
          (∀ escape, ¬FailsFirst plugins given (.unspoken escape)) ∧
            ¬FailsFirst plugins given .exit) := by
  refine ⟨fun _ => isAssembled_of_discover, fun _ => discover_eq_error_iff, ?_⟩
  simp only [← discover_eq_error_iff, Answers]
  cases found : discover plugins given with
  | ok analyzers => simp [isAssembled_of_discover found]
  | error error => cases error <;> simp [Error.isReported]

/-- A plug-in with a function that fails. -/
def failingPlugin : Plugin := ⟨"script", .ok (.failingFactory "boom")⟩

/-- A function that fails breaks the registry off. -/
theorem failingPlugin_not_answers : ¬Answers [failingPlugin] [] := by
  have named : failingPlugin.IsFor .script := by decide +kernel
  have unsuited : ¬(Offer.failingFactory "boom").Suits .script := by
    rintro ⟨analyzer, is, -⟩
    contradiction
  have fails : failingPlugin.Fails (.factory "boom") := .offer named rfl (.breaks unsuited rfl)
  have broken : discover [failingPlugin] [] = .error (.factory "boom") :=
    discover_eq_error_iff.mpr (.here fails)
  rintro (⟨analyzers, found, -⟩ | ⟨error, failed, reported⟩)
  · cases found.symm.trans broken
  · cases failed.symm.trans broken
    contradiction

end Registry

end Baseline
