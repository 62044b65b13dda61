import Baseline.Proofs.Execution
import Baseline.Proofs.Report.Degradation
import Baseline.Proofs.Report.Merge

/-!
# Failures on every route

That a file cannot be parsed is told by a parsing error in a batch answer, under one of two keys, by
one in the answer about the file, or by a failure on the file. The merged report of the file is the
same on every route on which the answer can be read.
-/

namespace Baseline

variable {message : String} {line : Option Int} {file : SourceFile}

/-- A payload that is a parsing error with a message and a line, described or built. -/
inductive ParsingError.Tells (message : String) (line : Option Int) : Payload → Prop
  | described {error : List (String × Payload)}
      (worded : Payload.field? error "message" = some (.text message))
      (placed : Payload.firstField error ["line"] = line.elim .null .int) :
      Tells message line (.map error)
  | built (code : Option String) : Tells message line (.parsingError ⟨message, line, code⟩)

namespace FileReport

variable {report : FileReport} {entries : List (String × Payload)} {key : String} {error : Payload}

/-- The merged report of a file that could not be parsed. -/
def failed (file : SourceFile) (message : String) (line : Option Int) : FileReport :=
  (ofFailure (.text message) line).tagged file.language

theorem failed_inj {other : String} {elsewhere : Option Int} :
    failed file message line = failed file other elsewhere ↔
      message = other ∧ line = elsewhere := by
  simp [failed, ofFailure, tagged, and_comm]

theorem merged_of_parsingError {e : ParsingError} (told : report.parsingError = some e) :
    report.merged (some file) = failed file e.message e.line := by
  rw [merged, normalized, told]
  rfl

/-- The entries of a file's report tell a parsing error under one of the keys for it, and hold
nothing under the other. -/
def TellsUnder (key message : String) (line : Option Int) (entries : List (String × Payload)) :
    Prop :=
  (∃ error, Payload.field? entries key = some error ∧ ParsingError.Tells message line error) ∧
    ∀ other ∈ ["parsingError", "parsing_error"], other ≠ key → Payload.field? entries other = none

theorem exists_degradedError (tells : ParsingError.Tells message line error) :
    ∃ e, degradedError error = some e ∧ e.message = message ∧ e.line = line := by
  cases tells with
  | built code => exact ⟨⟨message, line, code⟩, rfl, rfl, rfl⟩
  | @described fields worded placed =>
      refine ⟨ParsingError.degraded fields, rfl, ?_, ?_⟩
      · rw [ParsingError.degraded, Payload.degradedMessage, worded]
        rfl
      · rw [ParsingError.degraded, placed]
        cases line <;> rfl

theorem firstField_of_tellsUnder (known : key ∈ ["parsingError", "parsing_error"])
    (tells : TellsUnder key message line entries) :
    ParsingError.Tells message line
      (Payload.firstField entries ["parsingError", "parsing_error"]) := by
  obtain ⟨⟨error, found, tells⟩, apart⟩ := tells
  suffices Payload.firstField entries ["parsingError", "parsing_error"] = error by rwa [this]
  rw [List.mem_pair] at known
  rcases known with rfl | rfl
  · rw [Payload.firstField, List.findSome?_cons, found]
    rfl
  · have absent : Payload.field? entries "parsingError" = none := apart _ (by simp) (by simp)
    rw [Payload.firstField, List.findSome?_cons, List.findSome?_cons, absent, found]
    rfl

/-- A report that tells a parsing error holds it when it is read, whatever findings are beside it. -/
theorem exists_parsingError (known : key ∈ ["parsingError", "parsing_error"])
    (tells : TellsUnder key message line entries) (read : ofPayload (.map entries) = .ok report) :
    ∃ e, report.parsingError = some e ∧ e.message = message ∧ e.line = line := by
  obtain ⟨rfl, -⟩ := (ofPayload_givesIff (.map entries) report).mp read
  exact exists_degradedError (firstField_of_tellsUnder known tells)

end FileReport

namespace Report

open FileReport

variable {files group : FileGroup} {path key : String} {rules : List RuleSetting}
  {linterId : Option String} {reply : Reply Report} {report : Report} {result : FileReport}
  {answer entries : List (String × Payload)}

/-- A merge of one reply gives a result for a path. -/
def Gives (files : FileGroup) (path : String) (result : FileReport) (reply : Reply Report) : Prop :=
  ∃ all, mergeReplies (some files) [reply] = .ok all ∧ all.get? path = some result

/-- A reply gives for a path what it is read as there, as that is merged. -/
theorem gives_iff (found : files.get? path = some file) :
    Gives files path result reply ↔
      ∃ report, ofReply reply = .ok report ∧
        (report.get? path).map (·.merged (some file)) = some result := by
  unfold Gives mergeReplies
  rw [List.foldlM_cons]
  cases ofReply reply with
  | error e => simp [bind, Except.bind]
  | ok report =>
      have apart : report.keys.find? (∅ : Report).contains = none :=
        List.find?_eq_none.mpr fun _ _ => by simp [Keyed.contains]
      obtain ⟨all, absorbed, whole⟩ := absorb_of_disjoint (some files) apart
      have here : all.get? path = (report.get? path).map (·.merged (some file)) := by
        ext merged
        rw [Keyed.get?_eq_some_iff, whole, Keyed.entries_empty, List.nil_append, Option.map_eq_some_iff]
        simp only [List.mem_map, Keyed.get?_eq_some_iff, mergedEntry, Prod.mk.injEq]
        constructor
        · rintro ⟨⟨_, file⟩, member, rfl, rfl⟩
          exact ⟨file, member, by rw [Option.bind_some, found]⟩
        · rintro ⟨file, member, rfl⟩
          exact ⟨(path, file), member, rfl, by rw [Option.bind_some, found]⟩
      dsimp only
      rw [absorbed]
      simp [bind, Except.bind, pure, Except.pure, here]

/-- All that an answer lists can be read. -/
def CanBeRead (answer : List (String × Payload)) : Prop :=
  ∀ entry ∈ listed answer, ∃ file, FileReport.ofPayload entry.2 = .ok file

theorem gives_failed_of_described (found : files.get? path = some file)
    (known : key ∈ ["parsingError", "parsing_error"])
    (last : lastOf path (listed answer) = some (.map entries))
    (tells : TellsUnder key message line entries) :
    Gives files path (failed file message line) (.described (.map answer)) ↔ CanBeRead answer := by
  have some : listed answer ≠ [] := by
    intro none
    rw [none] at last
    contradiction
  rw [gives_iff found, CanBeRead, ← exists_ofFileEntries_iff ∅]
  change (∃ report, ofPayload (.map answer) = .ok report ∧ _) ↔ _
  rw [ofPayload_of_listed some]
  constructor
  · rintro ⟨report, read, -⟩
    exact ⟨report, read⟩
  · rintro ⟨report, read⟩
    have here := get?_ofFileEntries read path
    rw [last] at here
    obtain ⟨file, taken, here⟩ := here
    obtain ⟨e, told, rfl, rfl⟩ := exists_parsingError known tells taken
    exact ⟨report, read, by rw [here, Option.map_some, merged_of_parsingError told]⟩

/-- A merge of what an execution reports gives a result for a path, if the execution is not broken
off. -/
def RunGives (files : FileGroup) (path : String) (result : FileReport)
    (ran : Except Escape Report) : Prop :=
  ∃ report, ran = .ok report ∧ Gives files path result (.built report)

/-- What an analyzer of files makes of a file is merged as it is reported. -/
theorem runGives_iff (analyzer : FileAnalyzer) (found : files.get? path = some file)
    (inside : group.get? path = some file) :
    RunGives files path result (Execution.run analyzer rules linterId group) ↔
      (∃ report, Execution.run analyzer rules linterId group = .ok report) ∧
        ∃ own, Execution.reportOf analyzer (Execution.inputFor rules linterId path file) = .ok own ∧
          own.merged (some file) = result := by
  have given {report : Report} (ran : Execution.run analyzer rules linterId group = .ok report) :
      Gives files path result (.built report) ↔
        ∃ own, Execution.reportOf analyzer (Execution.inputFor rules linterId path file) = .ok own ∧
          own.merged (some file) = result := by
    rw [gives_iff found]
    simp [ofReply, Option.map_eq_some_iff, Execution.get?_of_run ran, inside]
  constructor
  · rintro ⟨report, ran, gives⟩
    exact ⟨⟨report, ran⟩, (given ran).mp gives⟩
  · rintro ⟨⟨report, ran⟩, own⟩
    exact ⟨report, ran, (given ran).mpr own⟩

/-- No file but that of a path breaks an execution off. -/
def OthersTell (analyzer : FileAnalyzer) (rules : List RuleSetting) (linterId : Option String)
    (group : FileGroup) (path : String) : Prop :=
  ∀ input ∈ Execution.inputsOf rules linterId group, input.path ≠ path →
    ∃ report, Execution.reportOf analyzer input = .ok report

theorem exists_run_iff_othersTell {analyzer : FileAnalyzer} {own : FileReport}
    (inside : group.get? path = some file)
    (reports :
      Execution.reportOf analyzer (Execution.inputFor rules linterId path file) = .ok own) :
    (∃ report, Execution.run analyzer rules linterId group = .ok report) ↔
      OthersTell analyzer rules linterId group path := by
  rw [Execution.exists_run_iff]
  constructor
  · exact fun all input member _ => all input member
  · intro others input member
    by_cases here : input.path = path
    · obtain ⟨_, other, foundHere, rfl⟩ := Execution.mem_inputsOf_iff.mp member
      obtain rfl : _ = path := here
      obtain rfl := Option.some.inj (inside.symm.trans foundHere)
      exact ⟨own, reports⟩
    · exact others input member here

/-- The ways in which analyzers tell of a file that it cannot be parsed. -/
structure FailureRoutes (path : String) (file : SourceFile) (message : String) (line : Option Int)
    (rules : List RuleSetting) (linterId : Option String) where
  /-- A batch answer with the parsing error under its first key. -/
  camel : List (String × Payload)
  camel_tells : ∃ entries, lastOf path (listed camel) = some (.map entries) ∧
    TellsUnder "parsingError" message line entries
  /-- A batch answer with the parsing error under its second key. -/
  snake : List (String × Payload)
  snake_tells : ∃ entries, lastOf path (listed snake) = some (.map entries) ∧
    TellsUnder "parsing_error" message line entries
  /-- An analyzer of files that answers with the parsing error. -/
  returning : FileAnalyzer
  returned : List (String × Payload)
  returns : returning.analyze (Execution.inputFor rules linterId path file) =
    .ok (.described (.map returned))
  returned_tells : ∃ key ∈ ["parsingError", "parsing_error"], TellsUnder key message line returned
  /-- An analyzer of files that fails. -/
  failing : FileAnalyzer
  fails : failing.analyze (Execution.inputFor rules linterId path file) =
    .error (.declared (.text message) (line.elim .null .int))

namespace FailureRoutes

/-- All routes give a result for the path. -/
structure Give (routes : FailureRoutes path file message line rules linterId)
    (files group : FileGroup) (result : FileReport) : Prop where
  camel : Gives files path result (.described (.map routes.camel))
  snake : Gives files path result (.described (.map routes.snake))
  returning : RunGives files path result (Execution.run routes.returning rules linterId group)
  failing : RunGives files path result (Execution.run routes.failing rules linterId group)

/-- The answers on the routes can be read, or the refusal of one about the file reads as its parsing
error. -/
structure AreRead (routes : FailureRoutes path file message line rules linterId) : Prop where
  camel : CanBeRead routes.camel
  snake : CanBeRead routes.snake
  returned : ∀ e, FileReport.ofPayload (.map routes.returned) = .error e →
    Text.trimmed e.message = message ∧ line = none

theorem exists_reportOf_failing (routes : FailureRoutes path file message line rules linterId) :
    ∃ own,
      Execution.reportOf routes.failing (Execution.inputFor rules linterId path file) = .ok own ∧
        own.merged (some file) = failed file message line := by
  rw [Execution.reportOf, Execution.attempt, routes.fails]
  cases line with
  | none => exact ⟨_, rfl, rfl⟩
  | some line => exact ⟨_, rfl, rfl⟩

theorem exists_reportOf_returning (routes : FailureRoutes path file message line rules linterId) :
    ∃ own,
      Execution.reportOf routes.returning (Execution.inputFor rules linterId path file) = .ok own ∧
        (own.merged (some file) = failed file message line ↔
          ∀ e, FileReport.ofPayload (.map routes.returned) = .error e →
            Text.trimmed e.message = message ∧ line = none) := by
  obtain ⟨key, known, tells⟩ := routes.returned_tells
  rw [Execution.reportOf, Execution.attempt, routes.returns]
  change ∃ own, Execution.kept _ ((FileReport.ofPayload (.map routes.returned)).mapError _) = _ ∧ _
  cases read : FileReport.ofPayload (.map routes.returned) with
  | ok report =>
      obtain ⟨e, told, rfl, rfl⟩ := exists_parsingError known tells read
      have tagged : (report.tagged file.language).parsingError = some e := told
      exact ⟨_, rfl, iff_of_true (merged_of_parsingError tagged) (by simp)⟩
  | error e =>
      refine ⟨_, rfl, ?_⟩
      change failed file (Text.trimmed e.message) none = failed file message line ↔ _
      rw [failed_inj]
      simp [eq_comm]

end FailureRoutes

/-- The merged report of a file that cannot be parsed counts as a failure and has the language of the
file. It is what a failure of an analyzer on the file comes to, and what all routes come to exactly
if the answers on them can be read, as long as no other file breaks an execution off. -/
theorem gives_failed_iff (routes : FailureRoutes path file message line rules linterId)
    (found : files.get? path = some file) (inside : group.get? path = some file) :
    (failed file message line).isFailure = true ∧
      (failed file message line).language = some file.language ∧
      (RunGives files path (failed file message line)
          (Execution.run routes.failing rules linterId group) ↔
        OthersTell routes.failing rules linterId group path) ∧
      (routes.Give files group (failed file message line) ↔
        routes.AreRead ∧ OthersTell routes.returning rules linterId group path ∧
          OthersTell routes.failing rules linterId group path) := by
  obtain ⟨_, camelLast, camelTells⟩ := routes.camel_tells
  obtain ⟨_, snakeLast, snakeTells⟩ := routes.snake_tells
  have camel := gives_failed_of_described found (by simp) camelLast camelTells
  have snake := gives_failed_of_described found (by simp) snakeLast snakeTells
  obtain ⟨ownFailing, reportsFailing, mergedFailing⟩ := routes.exists_reportOf_failing
  obtain ⟨ownReturning, reportsReturning, mergedReturning⟩ := routes.exists_reportOf_returning
  have failing : RunGives files path (failed file message line)
      (Execution.run routes.failing rules linterId group) ↔
        OthersTell routes.failing rules linterId group path := by
    rw [runGives_iff routes.failing found inside, exists_run_iff_othersTell inside reportsFailing]
    simp [reportsFailing, mergedFailing]
  have returning : RunGives files path (failed file message line)
      (Execution.run routes.returning rules linterId group) ↔
        OthersTell routes.returning rules linterId group path ∧
          ∀ e, FileReport.ofPayload (.map routes.returned) = .error e →
            Text.trimmed e.message = message ∧ line = none := by
    rw [runGives_iff routes.returning found inside,
      exists_run_iff_othersTell inside reportsReturning, ← mergedReturning]
    simp [reportsReturning]
  refine ⟨rfl, rfl, failing, ?_⟩
  constructor
  · rintro ⟨camelGives, snakeGives, returningGives, failingGives⟩
    obtain ⟨others, returned⟩ := returning.mp returningGives
    exact ⟨⟨camel.mp camelGives, snake.mp snakeGives, returned⟩, others, failing.mp failingGives⟩
  · rintro ⟨⟨camelRead, snakeRead, returned⟩, others, othersFailing⟩
    exact ⟨camel.mpr camelRead, snake.mpr snakeRead, returning.mpr ⟨others, returned⟩,
      failing.mpr othersFailing⟩

/-! ## A finding beside the error -/

/-- A file that is found. -/
def script : SourceFile := ⟨"", .main, .javascript⟩

/-- The report of a file with a parsing error under a key and a finding beside it. -/
def reportBeside (key : String) (finding : List (String × Payload)) : List (String × Payload) :=
  [(key, .map [("message", .text "m"), ("line", .int 3)]), ("issues", .list [.map finding])]

theorem tellsUnder_reportBeside {finding : List (String × Payload)}
    (known : key = "parsingError" ∨ key = "parsing_error") :
    TellsUnder key "m" (some 3) (reportBeside key finding) := by
  have told : Payload.field? (reportBeside key finding) key =
      some (.map [("message", .text "m"), ("line", .int 3)]) := by
    simp [reportBeside, Payload.field?]
  refine ⟨⟨_, told, .described rfl rfl⟩, ?_⟩
  rcases known with rfl | rfl <;> simp [reportBeside, Payload.field?, List.lookup_cons]

/-- A batch answer with that report. -/
def answerBeside (key : String) (finding : List (String × Payload)) : List (String × Payload) :=
  [("files", .map [("p/a.js", .map (reportBeside key finding))])]

theorem listed_answerBeside {finding : List (String × Payload)} :
    listed (answerBeside key finding) = [("p/a.js", .map (reportBeside key finding))] := rfl

theorem lastOf_answerBeside {finding : List (String × Payload)} :
    lastOf "p/a.js" (listed (answerBeside key finding)) = some (.map (reportBeside key finding)) := by
  have spelled : unixPath "p/a.js" = "p/a.js" := rfl
  simp [listed_answerBeside, lastOf, spelled]

/-- The routes on which a finding stands beside the error. -/
def routesBeside (finding : List (String × Payload)) :
    FailureRoutes "p/a.js" script "m" (some 3) [] none where
  camel := answerBeside "parsingError" finding
  camel_tells := ⟨_, lastOf_answerBeside, tellsUnder_reportBeside (.inl rfl)⟩
  snake := answerBeside "parsing_error" finding
  snake_tells := ⟨_, lastOf_answerBeside, tellsUnder_reportBeside (.inr rfl)⟩
  returning := ⟨"File", fun _ => .ok (.described (.map (reportBeside "parsingError" finding)))⟩
  returned := reportBeside "parsingError" finding
  returns := rfl
  returned_tells := ⟨"parsingError", by simp, tellsUnder_reportBeside (.inl rfl)⟩
  failing := ⟨"File", fun _ => .error (.declared (.text "m") (.int 3))⟩
  fails := rfl

/-- The files among which it is found. -/
def scripts : FileGroup := Keyed.empty.put "p/a.js" script

/-- The only file leaves none that could break an execution off. -/
theorem othersTell_scripts (analyzer : FileAnalyzer) :
    OthersTell analyzer [] none scripts "p/a.js" := by
  intro input member differs
  obtain rfl := List.mem_singleton.mp member
  exact (differs rfl).elim

theorem gives_failed_iff_plainFinding :
    scripts.get? "p/a.js" = some script ∧
      (routesBeside [("ruleId", .text "S1")]).Give scripts scripts
        (failed script "m" (some 3)) := by
  have found : scripts.get? "p/a.js" = some script := rfl
  have camel : FileReport.ofPayload (.map (reportBeside "parsingError" [("ruleId", .text "S1")])) =
      .ok ⟨[⟨"S1", none, 0, .text "", none, none, [], []⟩], some ⟨"m", some 3, none⟩, none⟩ := rfl
  have snake : FileReport.ofPayload (.map (reportBeside "parsing_error" [("ruleId", .text "S1")])) =
      .ok ⟨[⟨"S1", none, 0, .text "", none, none, [], []⟩], some ⟨"m", some 3, none⟩, none⟩ := rfl
  refine ⟨found, ?_⟩
  apply (gives_failed_iff (routesBeside [("ruleId", .text "S1")]) found found).2.2.2.mpr
  refine ⟨⟨?_, ?_, ?_⟩, othersTell_scripts _, othersTell_scripts _⟩
  · exact List.forall_mem_singleton.mpr ⟨_, camel⟩
  · exact List.forall_mem_singleton.mpr ⟨_, snake⟩
  · intro e refused
    cases camel.symm.trans refused

/-- A finding on an infinite line keeps the answer from being read, so the error beside it is not
told, although a failure would be. -/
theorem infiniteLine_not_gives_failed :
    ¬(routesBeside [("line", .float (.infinite false))]).Give scripts scripts
      (failed script "m" (some 3)) := by
  intro all
  have found : scripts.get? "p/a.js" = some script := rfl
  have refused : FileReport.ofPayload (.map (reportBeside "parsingError"
      [("line", .float (.infinite false))])) = .error (.notIntegral .infinity) := rfl
  have read : CanBeRead (answerBeside "parsingError" [("line", .float (.infinite false))]) :=
    (gives_failed_of_described found (by simp) lastOf_answerBeside
      (tellsUnder_reportBeside (.inl rfl))).mp all.camel
  obtain ⟨file, taken⟩ := read ("p/a.js", _) List.mem_cons_self
  cases refused.symm.trans taken

end Report

end Baseline
