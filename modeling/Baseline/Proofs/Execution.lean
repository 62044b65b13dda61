import Mathlib.Data.List.Perm.Subperm
import Baseline.Execution.Pool
import Baseline.Proofs.Except
import Baseline.Proofs.Keyed

/-!
# Execution does not depend on the workers

A turn takes one task one step on, and what a task comes to depends on its own input only. So every
run that is carried to its end ends as the files taken one by one do: with the report of each, or
with the first failure in their order that does not tell what it is. Every run can be carried to its
end, by as many turns as are left. One report for each file, and one warning for each failure, is
what a run gives exactly if every failure tells what it is.
-/

namespace Baseline.Execution

variable {analyzer : FileAnalyzer} {rules : List RuleSetting} {linterId : Option String}
  {title : String} {files : FileGroup} {inputs : List FileInput} {input : FileInput}
  {task : Task} {tasks : List Task} {phase next : Phase} {said logs : List LogRecord}
  {pool after final : Pool} {turn : Turn} {turns : List Turn} {capacity opened : Int}
  {report : Report} {escape : Escape} {path : String}

/-- The warnings among messages. -/
def warningsIn (logs : List LogRecord) : List LogRecord :=
  logs.filter fun record => record.level == .warning

@[simp] theorem warningsIn_append (first second : List LogRecord) :
    warningsIn (first ++ second) = warningsIn first ++ warningsIn second :=
  List.filter_append first second

/-! ## One task -/

namespace Phase

/-- The most steps that are left. -/
def left : Phase → Nat
  | .waiting => 5
  | .taken => 4
  | .answered _ => 3
  | .reported _ => 2
  | .counted _ _ => 1
  | .done _ | .broken _ => 0

/-- The warnings that have been said about a file with an input. -/
def warnings (analyzer : FileAnalyzer) (input : FileInput) : Phase → List LogRecord
  | .waiting | .taken | .answered _ => []
  | .reported _ | .counted _ _ | .done _ | .broken _ => (warning? analyzer input).toList

/-- A phase holds what an analyzer answers to an input. -/
inductive Agrees (analyzer : FileAnalyzer) (input : FileInput) : Phase → Prop where
  | waiting : Agrees analyzer input .waiting
  | taken : Agrees analyzer input .taken
  | answered : Agrees analyzer input (.answered (attempt analyzer input))
  | reported {report : FileReport} (reports : reportOf analyzer input = .ok report) :
      Agrees analyzer input (.reported report)
  | counted {report : FileReport} {message : Option String}
      (reports : reportOf analyzer input = .ok report) :
      Agrees analyzer input (.counted report message)
  | done {report : FileReport} (reports : reportOf analyzer input = .ok report) :
      Agrees analyzer input (.done report)
  | broken {escape : Escape} (breaks : reportOf analyzer input = .error escape) :
      Agrees analyzer input (.broken escape)

/-- A task with an input goes on from one phase to the next and something is said. -/
inductive Advances (analyzer : FileAnalyzer) (input : FileInput) :
    Phase → Phase → List LogRecord → Prop where
  | take : Advances analyzer input .waiting .taken []
  | answer : Advances analyzer input .taken (.answered (attempt analyzer input)) []
  | report (answer) :
      Advances analyzer input (.answered answer) (.after input answer)
        (complaint? input answer).toList
  | count (report message) :
      Advances analyzer input (.reported report) (.counted report message) []
  | finish (report message) :
      Advances analyzer input (.counted report message) (.done report)
        (message.map fun text => ⟨.info, channel, text⟩).toList

theorem Advances.left_lt (advances : Advances analyzer input phase next said) :
    next.left < phase.left := by
  cases advances with
  | report answer =>
      unfold Phase.after
      cases kept input answer with
      | ok report => exact Nat.lt_succ_self 2
      | error escape => exact Nat.zero_lt_succ 2
  | _ => exact Nat.lt_succ_self _

theorem agrees_after : Agrees analyzer input (.after input (attempt analyzer input)) := by
  unfold Phase.after
  split
  · exact .reported ‹_›
  · exact .broken ‹_›

theorem Advances.agrees (advances : Advances analyzer input phase next said)
    (agrees : Agrees analyzer input phase) : Agrees analyzer input next := by
  cases advances with
  | take => exact .taken
  | answer => exact .answered
  | report =>
      cases agrees
      exact agrees_after
  | count =>
      cases agrees with
      | reported reports => exact .counted reports
  | finish =>
      cases agrees with
      | counted reports => exact .done reports

theorem warningsIn_complaint (answer : Except Failure FileReport) :
    warningsIn (complaint? input answer).toList = (complaint? input answer).toList := by
  unfold complaint?
  split
  · rfl
  · split <;> rfl

theorem warnings_after (answer : Except Failure FileReport) :
    (Phase.after input answer).warnings analyzer input = (warning? analyzer input).toList := by
  unfold Phase.after
  split <;> rfl

/-- A step says the warnings that are new. -/
theorem Advances.warnings_eq (advances : Advances analyzer input phase next said)
    (agrees : Agrees analyzer input phase) :
    next.warnings analyzer input = phase.warnings analyzer input ++ warningsIn said := by
  cases advances with
  | take => rfl
  | answer => rfl
  | report =>
      cases agrees
      rw [warningsIn_complaint, warnings_after]
      rfl
  | count => exact (List.append_nil _).symm
  | finish report message => cases message <;> exact (List.append_nil _).symm

end Phase

/-! ## All tasks -/

/-- The most steps that are left of tasks. -/
def stepsLeft : List Task → Nat
  | [] => 0
  | task :: rest => task.phase.left + stepsLeft rest

theorem stepsLeft_append (first second : List Task) :
    stepsLeft (first ++ second) = stepsLeft first + stepsLeft second := by
  induction first with
  | nil => simp [stepsLeft]
  | cons task rest induction =>
      rw [List.cons_append, stepsLeft, stepsLeft, induction]
      omega

theorem stepsLeft_eq_zero_iff : stepsLeft tasks = 0 ↔ ∀ task ∈ tasks, task.phase.left = 0 := by
  induction tasks with
  | nil => simp [stepsLeft]
  | cons task rest induction => simp [stepsLeft, induction]

/-- The warnings that have been said about the files of tasks. -/
def warningsOf (analyzer : FileAnalyzer) (tasks : List Task) : List LogRecord :=
  tasks.flatMap fun task => task.phase.warnings analyzer task.input

namespace Pool

/-- A pool has a task for each input, with what the analyzer answers to it, and its warnings are
those about its tasks. -/
structure Faithful (analyzer : FileAnalyzer) (inputs : List FileInput) (pool : Pool) : Prop where
  inputs_eq : pool.tasks.map Task.input = inputs
  agrees : ∀ task ∈ pool.tasks, Phase.Agrees analyzer task.input task.phase
  warned : (warningsIn pool.logs).Perm (warningsOf analyzer pool.tasks)

/-- A turn takes one task one step on and leaves all others as they are. -/
theorem step?_eq_some (stepped : pool.step? capacity analyzer turn = some after) :
    ∃ task next said, pool.tasks[turn.number]? = some task ∧
      after.tasks = pool.tasks.set turn.number { task with phase := next } ∧
      after.logs = pool.logs ++ said ∧
      Phase.Advances analyzer task.input task.phase next said := by
  unfold step? at stepped
  cases found : pool.tasks[turn.number]? with
  | none => simp [found] at stepped
  | some task =>
      obtain ⟨input, phase⟩ := task
      refine ⟨⟨input, phase⟩, ?_⟩
      cases phase with
      | waiting =>
          simp only [found] at stepped
          split at stepped
          · cases stepped
            exact ⟨_, _, rfl, rfl, rfl, .take⟩
          · contradiction
      | taken =>
          simp only [found] at stepped
          cases stepped
          exact ⟨_, _, rfl, rfl, rfl, .answer⟩
      | answered answer =>
          simp only [found] at stepped
          cases stepped
          exact ⟨_, _, rfl, rfl, rfl, .report answer⟩
      | reported report =>
          simp only [found] at stepped
          cases stepped
          exact ⟨_, _, rfl, rfl, rfl, .count report _⟩
      | counted report message =>
          simp only [found] at stepped
          cases stepped
          exact ⟨_, _, rfl, rfl, rfl, .finish report message⟩
      | done => simp [found] at stepped
      | broken => simp [found] at stepped

/-- The tasks around one of them, as they are and with that one in another phase. -/
theorem exists_around {number : Nat} (found : tasks[number]? = some task) :
    ∃ earlier later, tasks = earlier ++ task :: later ∧
      ∀ next, tasks.set number { task with phase := next } =
        earlier ++ { task with phase := next } :: later := by
  obtain ⟨inside, rfl⟩ := List.getElem?_eq_some_iff.mp found
  refine ⟨tasks.take number, tasks.drop (number + 1), ?_, ?_⟩
  · rw [← List.drop_eq_getElem_cons inside, List.take_append_drop]
  · intro next
    rw [List.set_eq_take_append_cons_drop, if_pos inside]

theorem stepsLeft_step (stepped : pool.step? capacity analyzer turn = some after) :
    stepsLeft after.tasks < stepsLeft pool.tasks := by
  obtain ⟨task, next, said, found, tasks, -, advances⟩ := step?_eq_some stepped
  obtain ⟨earlier, later, around, changed⟩ := exists_around found
  have less := advances.left_lt
  rw [tasks, changed, around, stepsLeft_append, stepsLeft_append, stepsLeft, stepsLeft]
  dsimp only
  omega

theorem Faithful.step (faithful : pool.Faithful analyzer inputs)
    (stepped : pool.step? capacity analyzer turn = some after) :
    after.Faithful analyzer inputs := by
  obtain ⟨task, next, said, found, tasks, spoken, advances⟩ := step?_eq_some stepped
  obtain ⟨earlier, later, around, changed⟩ := exists_around found
  obtain ⟨inputs_eq, agrees, warned⟩ := faithful
  rw [around] at inputs_eq agrees warned
  have before : Phase.Agrees analyzer task.input task.phase := agrees task (by simp)
  refine ⟨?_, ?_, ?_⟩
  · rw [tasks, changed, ← inputs_eq]
    simp
  · intro other member
    rw [tasks, changed, List.mem_append, List.mem_cons] at member
    rcases member with member | rfl | member
    · exact agrees other (List.mem_append_left _ member)
    · exact advances.agrees before
    · exact agrees other (List.mem_append_right _ (List.mem_cons_of_mem _ member))
  · have fresh := advances.warnings_eq before
    rw [tasks, changed, spoken, warningsIn_append]
    simp only [warningsOf, List.flatMap_append, List.flatMap_cons] at warned ⊢
    rw [fresh]
    refine (warned.append_right _).trans ?_
    simp only [List.append_assoc]
    exact (List.perm_append_comm.append_left _).append_left _

theorem faithful_start : (start title inputs opened).Faithful analyzer inputs := by
  refine ⟨?_, ?_, ?_⟩
  · simp [start, Function.comp_def]
  · intro task member
    obtain ⟨input, -, rfl⟩ := List.mem_map.mp member
    exact .waiting
  · simp [start, warningsOf, warningsIn, Phase.warnings]

theorem stepsLeft_start : stepsLeft (start title inputs opened).tasks = 5 * inputs.length := by
  change stepsLeft (inputs.map fun input => { input }) = _
  induction inputs with
  | nil => rfl
  | cons input inputs induction =>
      rw [List.map_cons, stepsLeft, induction, List.length_cons]
      change 5 + 5 * inputs.length = _
      omega

/-! ## A whole run -/

theorem follow?_cons :
    pool.follow? capacity analyzer (turn :: turns) =
      (pool.step? capacity analyzer turn).bind fun next => next.follow? capacity analyzer turns :=
  List.foldlM_cons

theorem follow?_append {more : List Turn}
    (followed : pool.follow? capacity analyzer turns = some after) :
    pool.follow? capacity analyzer (turns ++ more) = after.follow? capacity analyzer more := by
  unfold follow? at followed ⊢
  rw [List.foldlM_append, followed]
  rfl

/-- What holds of a pool and its tasks after turns. -/
theorem Faithful.follow (faithful : pool.Faithful analyzer inputs)
    (followed : pool.follow? capacity analyzer turns = some after) :
    after.Faithful analyzer inputs ∧
      stepsLeft after.tasks + turns.length ≤ stepsLeft pool.tasks := by
  induction turns generalizing pool with
  | nil =>
      cases followed
      exact ⟨faithful, Nat.le_refl _⟩
  | cons turn turns induction =>
      rw [follow?_cons] at followed
      cases stepped : pool.step? capacity analyzer turn with
      | none => simp [stepped] at followed
      | some next =>
          rw [stepped, Option.bind_some] at followed
          obtain ⟨kept, left⟩ := induction (faithful.step stepped) followed
          have less := stepsLeft_step stepped
          refine ⟨kept, ?_⟩
          rw [List.length_cons]
          omega

/-- As long as there is work some turn can be taken: a worker that is at a task goes on, and if none
is at a task a file can be taken. -/
theorem exists_step (analyzer : FileAnalyzer) (work : stepsLeft pool.tasks ≠ 0)
    (room : 1 ≤ capacity) :
    ∃ turn after, pool.step? capacity analyzer turn = some after := by
  by_cases busy : ∃ task ∈ pool.tasks, task.isActive = true
  · obtain ⟨⟨input, phase⟩, member, active⟩ := busy
    obtain ⟨number, found⟩ := List.mem_iff_getElem?.mp member
    refine ⟨⟨number, 0⟩, Option.isSome_iff_exists.mp ?_⟩
    cases phase with
    | waiting => contradiction
    | done => contradiction
    | broken => contradiction
    | taken => simp only [step?, found, Option.isSome_some]
    | answered => simp only [step?, found, Option.isSome_some]
    | reported => simp only [step?, found, Option.isSome_some]
    | counted => simp only [step?, found, Option.isSome_some]
  · obtain ⟨⟨input, phase⟩, member, more⟩ : ∃ task ∈ pool.tasks, task.phase.left ≠ 0 := by
      simpa [stepsLeft_eq_zero_iff] using work
    obtain ⟨number, found⟩ := List.mem_iff_getElem?.mp member
    have idle : pool.tasks.countP Task.isActive = 0 :=
      List.countP_eq_zero.mpr fun task there active => busy ⟨task, there, active⟩
    cases phase with
    | waiting =>
        refine ⟨⟨number, 0⟩, pool.enter number ⟨input, .waiting⟩ .taken [], ?_⟩
        have free : ((pool.tasks.countP Task.isActive : Nat) : Int) < capacity := by omega
        simp only [step?, found, if_pos free]
    | done => exact (more rfl).elim
    | broken => exact (more rfl).elim
    | _ => exact (busy ⟨_, member, rfl⟩).elim

/-- A run can be carried to its end. -/
theorem exists_follow (analyzer : FileAnalyzer) (pool : Pool) (room : 1 ≤ capacity) :
    ∃ turns final, pool.follow? capacity analyzer turns = some final ∧
      stepsLeft final.tasks = 0 := by
  induction size : stepsLeft pool.tasks using Nat.strongRecOn generalizing pool with
  | ind left induction =>
      by_cases work : stepsLeft pool.tasks = 0
      · exact ⟨[], pool, rfl, work⟩
      · obtain ⟨turn, next, stepped⟩ := exists_step analyzer work room
        have less := stepsLeft_step stepped
        obtain ⟨turns, final, followed, finished⟩ := induction _ (size ▸ less) next rfl
        refine ⟨turn :: turns, final, ?_, finished⟩
        rw [follow?_cons, stepped, Option.bind_some, followed]

end Pool

/-! ## What a run gives at its end -/

theorem left_pos_of_isActive (active : task.isActive = true) : task.phase.left ≠ 0 := by
  obtain ⟨input, phase⟩ := task
  cases phase <;> simp_all [Task.isActive, Phase.left]

theorem exists_outcome (finished : ∀ task ∈ tasks, task.phase.left = 0) :
    ∃ outcome, outcomeOf? tasks = some outcome := by
  induction tasks with
  | nil => exact ⟨_, rfl⟩
  | cons task rest induction =>
      obtain ⟨here, others⟩ := List.forall_mem_cons.mp finished
      obtain ⟨outcome, all⟩ := induction others
      obtain ⟨input, phase⟩ := task
      cases phase with
      | done report => exact ⟨_, by rw [outcomeOf?, all]; rfl⟩
      | broken escape =>
          have idle : ¬rest.any Task.isActive = true := by
            rw [List.any_eq_true]
            rintro ⟨other, member, active⟩
            exact left_pos_of_isActive active (others other member)
          exact ⟨.error escape, by simp only [outcomeOf?, if_neg idle]⟩
      | _ => contradiction

theorem filterMap_cons_eq {α β : Type} (f : α → Option β) (a : α) (items : List α) :
    (a :: items).filterMap f = (f a).toList ++ items.filterMap f := by
  rw [List.filterMap_cons]
  cases f a <;> rfl

/-- What tasks come to in their order is what the files come to that are taken one by one; by then
the warnings about these have been said. -/
theorem outcome_eq {outcome : Except Escape (List (String × FileReport))}
    (agrees : ∀ task ∈ tasks, Phase.Agrees analyzer task.input task.phase)
    (all : outcomeOf? tasks = some outcome) :
    outcome = (tasks.map Task.input).mapM (entryOf analyzer) ∧
      ((reached analyzer (tasks.map Task.input)).filterMap (warning? analyzer)).Sublist
        (warningsOf analyzer tasks) := by
  induction tasks generalizing outcome with
  | nil =>
      cases all
      exact ⟨rfl, List.Sublist.refl _⟩
  | cons task rest induction =>
      obtain ⟨here, others⟩ := List.forall_mem_cons.mp agrees
      obtain ⟨input, phase⟩ := task
      simp only [List.map_cons, List.mapM_cons, warningsOf, List.flatMap_cons]
      cases phase with
      | done report =>
          cases here with
          | done reports =>
              obtain ⟨later, more, rfl⟩ := Option.map_eq_some_iff.mp all
              obtain ⟨rfl, warned⟩ := induction others more
              have entry : entryOf analyzer input = .ok (input.path, report) := by
                rw [entryOf, reports]
                rfl
              constructor
              · rw [entry]
                cases (rest.map Task.input).mapM (entryOf analyzer) <;> rfl
              · simp only [reached, reports]
                rw [filterMap_cons_eq]
                exact warned.append_left _
      | broken escape =>
          cases here with
          | broken breaks =>
              have entry : entryOf analyzer input = .error escape := by
                rw [entryOf, breaks]
                rfl
              simp only [outcomeOf?] at all
              split at all
              · contradiction
              · cases all
                refine ⟨by rw [entry]; rfl, ?_⟩
                simp only [reached, breaks]
                rw [filterMap_cons_eq]
                exact List.append_nil _ ▸ List.sublist_append_left _ _
      | _ => cases all

/-- No warning is said but one about each failure. -/
theorem warningsOf_sublist (analyzer : FileAnalyzer) (tasks : List Task) :
    (warningsOf analyzer tasks).Sublist
      ((tasks.map Task.input).filterMap (warning? analyzer)) := by
  induction tasks with
  | nil => exact List.Sublist.refl _
  | cons task rest induction =>
      have first : (task.phase.warnings analyzer task.input).Sublist
          (warning? analyzer task.input).toList := by
        obtain ⟨input, phase⟩ := task
        cases phase <;> simp [Phase.warnings]
      rw [List.map_cons, filterMap_cons_eq]
      exact first.append induction

/-! ## The files taken one by one -/

theorem entryOf_eq_ok_iff {entry : String × FileReport} :
    entryOf analyzer input = .ok entry ↔
      input.path = entry.1 ∧ reportOf analyzer input = .ok entry.2 := by
  obtain ⟨path, report⟩ := entry
  rw [entryOf]
  cases reportOf analyzer input with
  | ok given => simp [Except.map]
  | error escape => simp [Except.map]

theorem entryOf_eq_error_iff :
    entryOf analyzer input = .error escape ↔ reportOf analyzer input = .error escape := by
  rw [entryOf]
  cases reportOf analyzer input with
  | ok given => simp [Except.map]
  | error escape => simp [Except.map]

/-- Entries are what inputs come to, each under the path of its input. -/
def AreEntries (analyzer : FileAnalyzer) : List FileInput → List (String × FileReport) → Prop :=
  List.Forall₂ fun input entry => entryOf analyzer input = .ok entry

theorem AreEntries.keys_eq {entries : List (String × FileReport)}
    (are : AreEntries analyzer inputs entries) :
    entries.map Prod.fst = inputs.map FileInput.path := by
  induction are with
  | nil => rfl
  | cons here _ induction =>
      rw [List.map_cons, List.map_cons, induction, (entryOf_eq_ok_iff.mp here).1]

theorem AreEntries.mem_iff {entries : List (String × FileReport)}
    (are : AreEntries analyzer inputs entries) {entry : String × FileReport} :
    entry ∈ entries ↔
      ∃ input ∈ inputs, input.path = entry.1 ∧ reportOf analyzer input = .ok entry.2 := by
  induction are with
  | nil => simp
  | @cons input own _ _ here _ induction =>
      have same : entry = own ↔ input.path = entry.1 ∧ reportOf analyzer input = .ok entry.2 := by
        rw [← entryOf_eq_ok_iff, here, Except.ok.injEq, eq_comm]
      rw [List.mem_cons, induction, same]
      simp

theorem paths_inputsOf (rules : List RuleSetting) (linterId : Option String) (files : FileGroup) :
    (inputsOf rules linterId files).map FileInput.path = files.keys := by
  simp [inputsOf, inputFor, Keyed.keys, Function.comp_def]

theorem mem_inputsOf_iff :
    input ∈ inputsOf rules linterId files ↔
      ∃ path file, files.get? path = some file ∧ input = inputFor rules linterId path file := by
  simp only [inputsOf, List.mem_map, Keyed.get?_eq_some_iff, Prod.exists]
  simp [eq_comm]

/-- A run that no file breaks off has what the inputs come to as its entries. -/
theorem run_eq_ok_iff :
    run analyzer rules linterId files = .ok report ↔
      AreEntries analyzer (inputsOf rules linterId files) report.entries := by
  rw [run, AreEntries, ← Except.mapM_eq_ok_iff]
  constructor
  · intro ran
    obtain ⟨entries, all, rfl⟩ := Except.exists_of_map_eq_ok ran
    have are : AreEntries analyzer (inputsOf rules linterId files) entries :=
      Except.mapM_eq_ok_iff.mp all
    rw [Keyed.entries_ofList, all]
    rw [are.keys_eq, paths_inputsOf]
    exact files.nodup_keys
  · intro all
    rw [all]
    exact congrArg Except.ok (Keyed.eq_of_entries_eq (Keyed.entries_ofList report.nodup))

theorem keys_of_run (ran : run analyzer rules linterId files = .ok report) :
    report.keys = files.keys := by
  rw [← paths_inputsOf rules linterId, ← (run_eq_ok_iff.mp ran).keys_eq]
  rfl

/-- The report on a file is what its input comes to. -/
theorem get?_of_run (ran : run analyzer rules linterId files = .ok report) {entry : FileReport} :
    report.get? path = some entry ↔
      ∃ file, files.get? path = some file ∧
        reportOf analyzer (inputFor rules linterId path file) = .ok entry := by
  rw [Keyed.get?_eq_some_iff, (run_eq_ok_iff.mp ran).mem_iff]
  constructor
  · rintro ⟨input, member, rfl, reports⟩
    obtain ⟨path, file, found, rfl⟩ := mem_inputsOf_iff.mp member
    exact ⟨file, found, reports⟩
  · rintro ⟨file, found, reports⟩
    exact ⟨_, mem_inputsOf_iff.mpr ⟨path, file, found, rfl⟩, rfl, reports⟩

/-- A run is broken off by the first file whose failure does not tell what it is. -/
theorem run_eq_error_iff :
    run analyzer rules linterId files = .error escape ↔
      ∃ before input after, inputsOf rules linterId files = before ++ input :: after ∧
        (∀ other ∈ before, ∃ report, reportOf analyzer other = .ok report) ∧
        reportOf analyzer input = .error escape := by
  have entries_iff (other : FileInput) : (∃ entry, entryOf analyzer other = .ok entry) ↔
      ∃ report, reportOf analyzer other = .ok report := by
    simp [entryOf_eq_ok_iff]
  have fails_iff : run analyzer rules linterId files = .error escape ↔
      (inputsOf rules linterId files).mapM (entryOf analyzer) = .error escape := by
    rw [run]
    cases (inputsOf rules linterId files).mapM (entryOf analyzer) <;> simp [Except.map]
  rw [fails_iff, Except.mapM_eq_error_iff]
  simp only [entries_iff, entryOf_eq_error_iff]

theorem exists_run_iff :
    (∃ report, run analyzer rules linterId files = .ok report) ↔
      ∀ input ∈ inputsOf rules linterId files, ∃ report, reportOf analyzer input = .ok report := by
  constructor
  · rintro ⟨report, ran⟩ input member
    obtain ⟨path, file, found, rfl⟩ := mem_inputsOf_iff.mp member
    have listed : path ∈ report.keys := by
      rw [keys_of_run ran, Keyed.mem_keys_iff]
      exact ⟨file, Keyed.get?_eq_some_iff.mp found⟩
    obtain ⟨entry, stored⟩ := Keyed.mem_keys_iff.mp listed
    obtain ⟨other, foundAgain, reports⟩ :=
      (get?_of_run ran).mp (Keyed.get?_eq_some_iff.mpr stored)
    obtain rfl := Option.some.inj (found.symm.trans foundAgain)
    exact ⟨entry, reports⟩
  · intro all
    cases ran : run analyzer rules linterId files with
    | ok report => exact ⟨report, rfl⟩
    | error escape =>
        obtain ⟨before, input, after, split, -, breaks⟩ := run_eq_error_iff.mp ran
        obtain ⟨report, reports⟩ := all input (by simp [split])
        cases breaks.symm.trans reports

theorem reached_eq (all : ∀ input ∈ inputs, ∃ report, reportOf analyzer input = .ok report) :
    reached analyzer inputs = inputs := by
  induction inputs with
  | nil => rfl
  | cons input inputs induction =>
      obtain ⟨⟨report, reports⟩, others⟩ := List.forall_mem_cons.mp all
      simp only [reached, reports, induction others]

/-! ## Runs by workers -/

theorem one_le_workers (requested : Int) : 1 ≤ workers requested :=
  Int.le_max_left 1 requested

theorem run_of_isEmpty (empty : files.isEmpty = true) :
    run analyzer rules linterId files = .ok ∅ ∧ inputsOf rules linterId files = [] := by
  have none : inputsOf rules linterId files = [] := by
    rw [inputsOf, List.isEmpty_iff.mp empty, List.map_nil]
  refine ⟨?_, none⟩
  rw [run, none]
  rfl

/-- What a run gives that took some turns. -/
theorem of_runBy?_eq_some {requested : Int} {outcome : Except Escape Report}
    (ran : runBy? requested analyzer rules linterId title files opened turns =
      some (outcome, logs)) :
    outcome = run analyzer rules linterId files ∧
      ((calls analyzer rules linterId files).filterMap (warning? analyzer)).Subperm
        (warningsIn logs) ∧
      (warningsIn logs).Subperm
        ((inputsOf rules linterId files).filterMap (warning? analyzer)) := by
  unfold runBy? at ran
  cases empty : files.isEmpty with
  | true =>
      obtain ⟨nothing, none⟩ := @run_of_isEmpty analyzer rules linterId files empty
      rw [empty, if_pos rfl] at ran
      cases ran
      rw [nothing, calls, none]
      exact ⟨rfl, List.Subperm.refl _, List.Subperm.refl _⟩
  | false =>
      rw [empty, if_neg Bool.false_ne_true] at ran
      obtain ⟨final, followed, finished⟩ := Option.bind_eq_some_iff.mp ran
      obtain ⟨entries, all, given⟩ := Option.bind_eq_some_iff.mp finished
      obtain ⟨faithful, -⟩ := Pool.faithful_start.follow followed
      obtain ⟨same, warned⟩ := outcome_eq faithful.agrees all
      rw [faithful.inputs_eq] at same warned
      have spoken := faithful.warned
      have above := warningsOf_sublist analyzer final.tasks
      rw [faithful.inputs_eq] at above
      suffices ends : outcome = run analyzer rules linterId files ∧
          warningsIn logs = warningsIn final.logs by
        rw [ends.2]
        exact ⟨ends.1, warned.subperm.trans spoken.symm.subperm, spoken.subperm.trans above.subperm⟩
      rw [run, ← same]
      cases entries with
      | ok entries =>
          cases given
          exact ⟨rfl, by simp [warningsIn]⟩
      | error escape =>
          cases given
          exact ⟨rfl, by simp [warningsIn]⟩

/-- Workers that have taken some turns can take more until a run is at its end, and there are only
so many turns to take. -/
theorem exists_runBy? {requested : Int}
    (followed : (Pool.start title (inputsOf rules linterId files) opened).follow?
      (workers requested) analyzer turns = some after) :
    turns.length ≤ 5 * files.size ∧
      ∃ rest outcome logs, runBy? requested analyzer rules linterId title files opened
        (turns ++ rest) = some (outcome, logs) := by
  obtain ⟨faithful, left⟩ := Pool.faithful_start.follow followed
  obtain ⟨rest, final, continued, finished⟩ :=
    Pool.exists_follow analyzer after (one_le_workers requested)
  obtain ⟨outcome, all⟩ := exists_outcome (stepsLeft_eq_zero_iff.mp finished)
  have whole : (Pool.start title (inputsOf rules linterId files) opened).follow?
      (workers requested) analyzer (turns ++ rest) = some final :=
    (Pool.follow?_append followed).trans continued
  constructor
  · have size : (inputsOf rules linterId files).length = files.size := by
      simp [inputsOf, Keyed.size]
    rw [Pool.stepsLeft_start, size] at left
    omega
  · have ends : (runBy? requested analyzer rules linterId title files opened
        (turns ++ rest)).isSome = true := by
      unfold runBy?
      split
      · rfl
      · dsimp only
        rw [whole, Option.bind_eq_bind, Option.bind_some, all]
        cases outcome <;> rfl
    obtain ⟨⟨outcome, logs⟩, ran⟩ := Option.isSome_iff_exists.mp ends
    exact ⟨rest, outcome, logs, ran⟩

/-! ## What a report depends on -/

/-- An analyzer fails on an input, or its answer is refused. -/
def FailsOn (analyzer : FileAnalyzer) (input : FileInput) : Prop :=
  (∃ failure, analyzer.analyze input = .error failure) ∨
    ∃ reply error, analyzer.analyze input = .ok reply ∧ FileReport.ofReply reply = .error error

theorem failsOn_iff :
    FailsOn analyzer input ↔ ∃ failure, attempt analyzer input = .error failure := by
  unfold attempt FailsOn
  cases analyzer.analyze input with
  | error failure => simp
  | ok reply => cases read : FileReport.ofReply reply <;> simp [Except.mapError, read]

/-- A failure tells what it is: it has a text, a message and a line. -/
def Tells (failure : Failure) : Prop :=
  (∃ text, failure.text = .ok text) ∧ ∃ report, failure.report = .ok report

theorem isSome_warning?_iff :
    (warning? analyzer input).isSome = true ↔
      ∃ failure text, attempt analyzer input = .error failure ∧ failure.text = .ok text := by
  unfold warning?
  cases attempt analyzer input with
  | ok report => simp [complaint?]
  | error failure => cases worded : failure.text <;> simp [complaint?, worded]

theorem exists_reportOf_iff :
    (∃ report, reportOf analyzer input = .ok report) ↔
      ∀ failure, attempt analyzer input = .error failure →
        ∃ report, failure.report = .ok report := by
  unfold reportOf
  cases attempt analyzer input with
  | ok report => simp [kept]
  | error failure => cases told : failure.report <;> simp [kept, told, Except.map]

theorem language_of_reportOf {entry : FileReport} (reports : reportOf analyzer input = .ok entry) :
    entry.language = some input.language := by
  unfold reportOf at reports
  cases attempted : attempt analyzer input with
  | ok report =>
      rw [attempted] at reports
      cases reports
      rfl
  | error failure =>
      rw [attempted] at reports
      obtain ⟨report, -, rfl⟩ := Except.exists_of_map_eq_ok reports
      rfl

theorem reportOf_congr {other : FileAnalyzer}
    (same : other.analyze input = analyzer.analyze input) :
    reportOf other input = reportOf analyzer input := by
  rw [reportOf, reportOf, attempt, attempt, same]

/-- However many workers are asked for, and in whatever order they take and finish files, a run ends
with one report for each file, in the order of the group and in the language of the file, as it does
with the files taken one by one, and with one warning for each file that the analyzer fails on. -/
structure IsIsolated (requested : Int) (analyzer : FileAnalyzer) (rules : List RuleSetting)
    (linterId : Option String) (title : String) (files : FileGroup) (opened : Int) : Prop where
  reported : ∀ turns outcome logs,
    runBy? requested analyzer rules linterId title files opened turns = some (outcome, logs) →
      ∃ report, outcome = .ok report ∧ run analyzer rules linterId files = .ok report ∧
        report.keys = files.keys ∧
        ∀ path file, files.get? path = some file →
          ∃ entry, report.get? path = some entry ∧ entry.language = some file.language
  warned : ∀ turns outcome logs,
    runBy? requested analyzer rules linterId title files opened turns = some (outcome, logs) →
      (warningsIn logs).Perm ((inputsOf rules linterId files).filterMap (warning? analyzer)) ∧
        ∀ input ∈ inputsOf rules linterId files,
          (warning? analyzer input).isSome = true ↔ FailsOn analyzer input

/-- A run is isolated if every failure tells what it is. -/
theorem isIsolated_of_tells {requested : Int}
    (tells : ∀ input ∈ inputsOf rules linterId files, ∀ failure,
      attempt analyzer input = .error failure → Tells failure) :
    IsIsolated requested analyzer rules linterId title files opened := by
  have all : ∀ input ∈ inputsOf rules linterId files,
      ∃ report, reportOf analyzer input = .ok report :=
    fun input member => exists_reportOf_iff.mpr fun failure failed =>
      (tells input member failure failed).2
  obtain ⟨report, ran⟩ := exists_run_iff.mpr all
  constructor
  case reported =>
    intro turns outcome logs given
    obtain ⟨rfl, -⟩ := of_runBy?_eq_some given
    refine ⟨report, ran, ran, keys_of_run ran, fun path file found => ?_⟩
    obtain ⟨entry, reports⟩ := all _ (mem_inputsOf_iff.mpr ⟨path, file, found, rfl⟩)
    exact ⟨entry, (get?_of_run ran).mpr ⟨file, found, reports⟩, language_of_reportOf reports⟩
  case warned =>
    intro turns outcome logs given
    obtain ⟨-, above, below⟩ := of_runBy?_eq_some given
    rw [calls, reached_eq all] at above
    refine ⟨below.antisymm above, fun input member => ?_⟩
    rw [isSome_warning?_iff, failsOn_iff]
    constructor
    · rintro ⟨failure, -, failed, -⟩
      exact ⟨failure, failed⟩
    · rintro ⟨failure, failed⟩
      obtain ⟨⟨text, worded⟩, -⟩ := tells input member failure failed
      exact ⟨failure, text, failed, worded⟩

/-- Every failure in a run that is isolated tells what it is. -/
theorem IsIsolated.tells {requested : Int}
    (isolated : IsIsolated requested analyzer rules linterId title files opened) :
    ∀ input ∈ inputsOf rules linterId files, ∀ failure,
      attempt analyzer input = .error failure → Tells failure := by
  -- Some run is carried to its end, so what holds of each holds of one.
  have opens : (Pool.start title (inputsOf rules linterId files) opened).follow?
      (workers requested) analyzer [] =
        some (Pool.start title (inputsOf rules linterId files) opened) := rfl
  obtain ⟨-, turns, outcome, logs, given⟩ := exists_runBy? opens
  obtain ⟨report, -, ran, -⟩ := isolated.reported _ outcome logs given
  obtain ⟨-, warned⟩ := isolated.warned _ outcome logs given
  intro input member failure failed
  refine ⟨?_, ?_⟩
  · obtain ⟨other, text, failedAgain, worded⟩ :=
      isSome_warning?_iff.mp ((warned input member).mpr (failsOn_iff.mpr ⟨failure, failed⟩))
    obtain rfl := Except.error.inj (failed.symm.trans failedAgain)
    exact ⟨text, worded⟩
  · exact exists_reportOf_iff.mp (exists_run_iff.mp ⟨report, ran⟩ input member) failure failed

/-- However many workers are asked for, and in whatever order they take and finish files, a run ends
as it does with the files taken one by one, warns of the failures that are met so and of no other,
and of none twice; and no run is ever stuck. It is broken off by the first file whose failure does
not tell what it is. A report depends on nothing but the record of its file and what the analyzer
answers to that. So there is one report for each file and one warning for each failure exactly if
every failure tells what it is. -/
theorem isIsolated_iff (requested : Int) (analyzer : FileAnalyzer) (rules : List RuleSetting)
    (linterId : Option String) (title : String) (files : FileGroup) (opened : Int) :
    (∀ turns outcome logs,
        runBy? requested analyzer rules linterId title files opened turns =
            some (outcome, logs) →
          outcome = run analyzer rules linterId files ∧
            ((calls analyzer rules linterId files).filterMap (warning? analyzer)).Subperm
              (warningsIn logs) ∧
            (warningsIn logs).Subperm
              ((inputsOf rules linterId files).filterMap (warning? analyzer))) ∧
      (∀ turns pool,
        (Pool.start title (inputsOf rules linterId files) opened).follow? (workers requested)
            analyzer turns = some pool →
          turns.length ≤ 5 * files.size ∧
            ∃ rest outcome logs, runBy? requested analyzer rules linterId title files opened
              (turns ++ rest) = some (outcome, logs)) ∧
      (∀ escape, run analyzer rules linterId files = .error escape ↔
        ∃ before input after, inputsOf rules linterId files = before ++ input :: after ∧
          (∀ other ∈ before, ∃ report, reportOf analyzer other = .ok report) ∧
          reportOf analyzer input = .error escape) ∧
      (∀ (other : FileAnalyzer) (group : FileGroup) (path : String) report changed,
        run analyzer rules linterId files = .ok report →
        run other rules linterId group = .ok changed →
        group.get? path = files.get? path →
        (∀ file, files.get? path = some file →
          other.analyze (inputFor rules linterId path file) =
            analyzer.analyze (inputFor rules linterId path file)) →
          changed.get? path = report.get? path) ∧
      (IsIsolated requested analyzer rules linterId title files opened ↔
        ∀ input ∈ inputsOf rules linterId files, ∀ failure,
          attempt analyzer input = .error failure → Tells failure) := by
  refine ⟨fun _ _ _ => of_runBy?_eq_some, fun _ _ => exists_runBy?, fun _ => run_eq_error_iff, ?_,
    IsIsolated.tells, isIsolated_of_tells⟩
  intro other group path report changed ran ranOther sameFile sameAnswer
  ext entry
  rw [get?_of_run ran, get?_of_run ranOther, sameFile]
  refine exists_congr fun file => and_congr_right fun found => ?_
  rw [reportOf_congr (sameAnswer file found)]

/-- Fails on every file with a failure that has no text. -/
def speechless : FileAnalyzer where
  name := "speechless"
  analyze _ := .error (.asked
    { kind := "ValueError", text := .error .longInteger, declared := none
      line := .ok .null, markLine := .ok .null })

/-- Two files. -/
def pair : FileGroup :=
  Keyed.ofList [("/a.yml", ⟨"", .main, .javascript⟩), ("/b.yml", ⟨"", .main, .javascript⟩)]

/-- A run is broken off by a failure that has no text. -/
theorem speechless_not_isIsolated :
    run speechless [] none pair = .error .longInteger ∧
      ¬IsIsolated 1 speechless [] none standardTitle pair 0 := by
  refine ⟨rfl, fun isolated => ?_⟩
  obtain ⟨⟨text, worded⟩, -⟩ := isolated.tells _ List.mem_cons_self _ rfl
  cases worded

/-- Fails on every file. -/
def broken : FileAnalyzer where
  name := "broken"
  analyze _ := .error (.raised "OSError" "" .null .null)

/-- The second file may be taken and finished before the first, also by a single worker. -/
example :
    (runBy? 0 broken [] none standardTitle pair 0
      [⟨1, 0⟩, ⟨1, 0⟩, ⟨1, 0⟩, ⟨1, 12⟩, ⟨1, 0⟩, ⟨0, 0⟩, ⟨0, 0⟩, ⟨0, 0⟩, ⟨0, 3⟩, ⟨0, 0⟩]).map
        (fun given => given.1.toOption.map Keyed.keys) = some (some ["/a.yml", "/b.yml"]) := by
  decide +kernel

end Baseline.Execution
