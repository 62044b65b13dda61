import Baseline.Execution

/-!
# Execution by several workers

The workers of a pool take the files of a group, no more of them at once than there are workers, and
what they do for their files falls in between in any order. The clock may show anything at a step.
When all is done the reports are put under their paths in the order of the group. If a file breaks
the run off, the files that still wait when all before it are done need not be taken any more.
-/

namespace Baseline.Execution

/-- How far the work on a file has come: the file waits, a worker has it, the analyzer has answered,
a failure has been logged, the file has been counted with what there is to say about that, or all is
done. A failure that does not tell what it is ends the work. -/
inductive Phase where
  | waiting
  | taken
  | answered (answer : Except Failure FileReport)
  | reported (report : FileReport)
  | counted (report : FileReport) (message : Option String)
  | done (report : FileReport)
  | broken (escape : Escape)

/-- The work on a file. -/
structure Task where
  input : FileInput
  phase : Phase := .waiting

/-- Whether a worker is at a task. -/
def Task.isActive (task : Task) : Bool :=
  match task.phase with
  | .waiting | .done _ | .broken _ => false
  | _ => true

/-- What tasks have come to that are looked at in their order: reports under their paths, or what
breaks the run off. There is nothing yet if one of them is not done, nor if one breaks the run off
while workers are still at later ones. -/
def outcomeOf? : List Task → Option (Except Escape (List (String × FileReport)))
  | [] => some (.ok [])
  | task :: rest =>
    match task.phase with
    | .done report => (outcomeOf? rest).map (·.map ((task.input.path, report) :: ·))
    | .broken escape => if rest.any Task.isActive then none else some (.error escape)
    | _ => none

/-- How work goes on after the analyzer has answered. -/
def Phase.after (input : FileInput) (answer : Except Failure FileReport) : Phase :=
  match kept input answer with
  | .ok report => .reported report
  | .error escape => .broken escape

/-- The tasks of a group in its order, the progress of the work, and what has been said about it. -/
structure Pool where
  tasks : List Task
  progress : Progress Int
  logs : List LogRecord := []

/-- A task goes on by one step, at a reading of the clock. -/
structure Turn where
  number : Nat
  reading : Int

namespace Pool

/-- The pool before any work, opened at a reading of the clock. -/
def start (title : String) (inputs : List FileInput) (opened : Int) : Pool :=
  { tasks := inputs.map fun input => { input }
    progress := .ofReading title inputs.length period opened }

/-- The pool after a task has come to a phase and something has been said. -/
def enter (pool : Pool) (number : Nat) (task : Task) (phase : Phase) (said : List LogRecord) :
    Pool :=
  { pool with
    tasks := pool.tasks.set number { task with phase }
    logs := pool.logs ++ said }

/-- The pool after a turn, if it can be taken: a waiting file needs a free worker. -/
def step? (workers : Int) (analyzer : FileAnalyzer) (pool : Pool) (turn : Turn) : Option Pool :=
  match pool.tasks[turn.number]? with
  | none => none
  | some task =>
    match task.phase with
    | .waiting =>
      if pool.tasks.countP Task.isActive < workers then
        some (pool.enter turn.number task .taken [])
      else none
    | .taken => some (pool.enter turn.number task (.answered (attempt analyzer task.input)) [])
    | .answered answer =>
      some (pool.enter turn.number task (.after task.input answer)
        (complaint? task.input answer).toList)
    | .reported report =>
      let (progress, message) := pool.progress.advance turn.reading task.input.path
      some { pool.enter turn.number task (.counted report message) [] with progress }
    | .counted report message =>
      some (pool.enter turn.number task (.done report)
        (message.map fun text => ⟨.info, channel, text⟩).toList)
    | .done _ | .broken _ => none

/-- The pool after turns, if they can be taken one after the other. -/
def follow? (workers : Int) (analyzer : FileAnalyzer) (pool : Pool) (turns : List Turn) :
    Option Pool :=
  turns.foldlM (step? workers analyzer) pool

end Pool

/-- What a run with a requested number of workers gives if they take some turns: the report, or what
breaks it off, and what was said. There is nothing if the turns cannot be taken or leave work to
do. -/
def runBy? (requested : Int) (analyzer : FileAnalyzer) (rules : List RuleSetting)
    (linterId : Option String) (title : String) (files : FileGroup) (opened : Int)
    (turns : List Turn) : Option (Except Escape Report × List LogRecord) :=
  if files.isEmpty then some (.ok ∅, [])
  else do
    let pool := Pool.start title (inputsOf rules linterId files) opened
    let final ← pool.follow? (workers requested) analyzer turns
    let said := ⟨.info, channel, pool.progress.startMessage⟩ :: final.logs
    match ← outcomeOf? final.tasks with
    | .ok entries =>
      return (.ok (.ofList entries), said ++ [⟨.info, channel, final.progress.stopMessage⟩])
    | .error escape => return (.error escape, said)

end Baseline.Execution
