import Baseline.Proofs.Report.Degradation
import Mathlib.Logic.Relation

/-!
# Reports on the wire

A report that was read is written as a payload that is read as the same report, the further fields
of its findings included. The keys that may be spelled in two ways may be spelled in either.
-/

namespace Baseline

namespace Payload

variable {spellings : List (String × String)} {keys : List String} {key name : String}
  {value : Payload} {entries respelled before after : List (String × Payload)}

/-! ## Keys in two spellings -/

/-- Entries in which one key is spelled in its other way. Neither spelling stands anywhere else, and
where among the others the entry stands does not matter. -/
inductive Respells (spellings : List (String × String)) :
    List (String × Payload) → List (String × Payload) → Prop
  | key {camel snake : String} {value : Payload} {before after left right : List (String × Payload)}
      (two : (camel, snake) ∈ spellings) (others : left ++ right = before ++ after)
      (single : ∀ entry ∈ before ++ after, entry.1 ≠ camel ∧ entry.1 ≠ snake) :
      Respells spellings (before ++ (camel, value) :: after) (left ++ (snake, value) :: right)

theorem lookup_middle (other : key ≠ name) :
    (before ++ (name, value) :: after).lookup key = (before ++ after).lookup key := by
  have differs : (key == name) = false := by simpa using other
  simp [List.lookup_append, List.lookup_cons, differs]

theorem lookup_middle_self (absent : ∀ entry ∈ before ++ after, entry.1 ≠ name) :
    (before ++ (name, value) :: after).lookup name = some value := by
  have none : before.lookup name = none := by
    rw [List.lookup_eq_none_iff]
    intro entry member
    rw [bne_iff_ne]
    exact Ne.symm (absent entry (List.mem_append_left _ member))
  simp [List.lookup_append, none]

theorem firstField_congr (keys : List String)
    (same : ∀ key ∈ keys, field? respelled key = field? entries key) :
    firstField respelled keys = firstField entries keys := by
  rw [firstField, firstField]
  congr 1
  induction keys with
  | nil => rfl
  | cons key keys induction =>
      obtain ⟨here, others⟩ := List.forall_mem_cons.mp same
      rw [List.findSome?_cons, List.findSome?_cons, here, induction others]

/-- A key that has one spelling has the value that it had. -/
theorem Respells.field?_eq (spelled : Respells spellings entries respelled) (key : String)
    (outside : ∀ pair ∈ spellings, key ≠ pair.1 ∧ key ≠ pair.2) :
    field? respelled key = field? entries key := by
  cases spelled with
  | key two others single =>
      rw [field?, field?, lookup_middle (outside _ two).1, lookup_middle (outside _ two).2, others]

/-- A field that is looked up under both spellings, or under neither, has the value that it had. -/
theorem Respells.firstField_eq (spelled : Respells spellings entries respelled)
    (keys : List String) (apart : ∀ pair ∈ spellings,
      pair.1 ≠ pair.2 ∧ (keys = [pair.1, pair.2] ∨ ∀ key ∈ keys, key ≠ pair.1 ∧ key ≠ pair.2)) :
    firstField respelled keys = firstField entries keys := by
  cases spelled with
  | @key camel snake value before after left right two others single =>
      obtain ⟨differ, rfl | outside⟩ := apart _ two
      · have camelBefore : (before ++ (camel, value) :: after).lookup camel = some value :=
          lookup_middle_self fun entry member => (single entry member).1
        have camelGone : (left ++ (snake, value) :: right).lookup camel = none := by
          rw [lookup_middle differ, others, List.lookup_eq_none_iff]
          intro entry member
          rw [bne_iff_ne]
          exact Ne.symm (single entry member).1
        have snakeNow : (left ++ (snake, value) :: right).lookup snake = some value :=
          lookup_middle_self fun entry member => (single entry (others ▸ member)).2
        simp only [firstField, List.findSome?_cons, field?, camelBefore, camelGone, snakeNow]
      · have same (key : String) (member : key ∈ keys) :
            field? (left ++ (snake, value) :: right) key =
              field? (before ++ (camel, value) :: after) key := by
          rw [field?, field?, lookup_middle (outside key member).1,
            lookup_middle (outside key member).2, others]
        exact firstField_congr keys same

/-- Entries whose keys have one spelling are those that they were, in their order. -/
theorem Respells.filter_eq (spelled : Respells spellings entries respelled) (keeps : String → Bool)
    (dropped : ∀ pair ∈ spellings, keeps pair.1 = false ∧ keeps pair.2 = false) :
    (respelled.filter fun entry => keeps entry.1) = entries.filter fun entry => keeps entry.1 := by
  cases spelled with
  | key two others single =>
      simp only [List.filter_append, List.filter_cons, dropped _ two, Bool.false_eq_true, if_false]
      rw [← List.filter_append, ← List.filter_append, others]

end Payload

/-! ## Findings -/

namespace DiagnosticOf

variable {d : Diagnostic} {item : Payload} {key : String}
  {entries respelled : List (String × Payload)}

/-- The two spellings of the keys of a finding that have two. -/
def spellings : List (String × String) :=
  [("ruleId", "rule_id"), ("secondaryLocations", "secondary_locations"), ("endLine", "end_line"),
    ("endColumn", "end_column")]

/-- A map describes the same finding when a key of it is spelled in the other way. -/
theorem ofEntries_respells (spelled : Payload.Respells spellings entries respelled) :
    ofEntries respelled = ofEntries entries := by
  have line := spelled.firstField_eq ["line"] (by decide)
  have column := spelled.firstField_eq ["column"] (by decide)
  have message : Payload.messageOf respelled = Payload.messageOf entries := by
    rw [Payload.messageOf, spelled.field?_eq "message" (by decide), Payload.messageOf]
  have endLine := spelled.firstField_eq endLineKeys (by decide)
  have endColumn := spelled.firstField_eq endColumnKeys (by decide)
  have rule := spelled.firstField_eq ruleKeys (by decide)
  have secondary := spelled.firstField_eq secondaryKeys (by decide)
  have extra := spelled.filter_eq (fun key => !ownKeys.contains key) (by decide)
  rw [ofEntries, ofEntries, line, column, message, endLine, endColumn, rule, secondary, extra]

/-- A finding that was made by reading a map. -/
def IsRead (d : Diagnostic) : Prop := ∃ entries, ofEntries entries = .ok d

/-- Reading a map makes the message a text, and keeps as further fields those that are not the
finding's own. -/
theorem of_ofEntries (read : ofEntries entries = .ok d) :
    (∃ message, d.message = .text message) ∧
      d.extra = entries.filter fun (key, _) => !ownKeys.contains key := by
  obtain ⟨rfl, -⟩ := (ofEntries_givesIff entries d).mp read
  exact ⟨⟨_, rfl⟩, rfl⟩

/-- None of the further fields of a finding that was read is one of its own. -/
theorem IsRead.not_contains (read : d.IsRead) :
    ∀ entry ∈ d.extra, ownKeys.contains entry.1 = false := by
  obtain ⟨entries, read⟩ := read
  rw [(of_ofEntries read).2]
  intro entry member
  simpa using (List.mem_filter.mp member).2

theorem IsRead.lookup_extra (read : d.IsRead) (own : key ∈ ownKeys) : d.extra.lookup key = none := by
  rw [List.lookup_eq_none_iff]
  intro entry member
  rw [bne_iff_ne]
  rintro rfl
  have foreign := read.not_contains entry member
  simp_all

/-- An optional number is read from what it is written as. -/
theorem toInt?_elim (n : Option Int) : (n.elim .null .int : Payload).toInt? = .ok n := by
  cases n <;> rfl

/-- A finding that was read is written as a map that is read as the same finding. -/
theorem ofPayload_toPayload (read : d.IsRead) : ofPayload d.toPayload = .ok d := by
  have absent (key : String) : key ∈ ownKeys → d.extra.lookup key = none := read.lookup_extra
  have kept : (d.extra.filter fun entry => !ownKeys.contains entry.1) = d.extra := by
    rw [List.filter_eq_self]
    intro entry member
    rw [read.not_contains entry member]
    rfl
  obtain ⟨origin, read⟩ := read
  obtain ⟨⟨text, wording⟩, -⟩ := of_ofEntries read
  obtain ⟨ruleId, line, column, message, endLine, endColumn, secondary, extra⟩ := d
  obtain rfl : message = .text text := wording
  dsimp only at absent kept
  have absent_endLine := absent "endLine" (by decide)
  have absent_end_line := absent "end_line" (by decide)
  have absent_endColumn := absent "endColumn" (by decide)
  have absent_end_column := absent "end_column" (by decide)
  rw [toPayload, ofPayload, ofEntries]
  generalize written : (_ ++ extra : List (String × Payload)) = fields
  have line_field : Payload.firstField fields ["line"] = line.elim .null .int := by
    rw [← written]
    simp [Payload.firstField, Payload.field?, List.lookup_cons]
  have column_field : Payload.firstField fields ["column"] = .int column := by
    rw [← written]
    simp [Payload.firstField, Payload.field?, List.lookup_cons]
  have endLine_field : Payload.firstField fields endLineKeys = endLine.elim .null .int := by
    rw [← written]
    cases endLine <;> cases endColumn <;>
      simp [Payload.firstField, Payload.field?, endLineKeys, List.lookup_cons,
        absent_endLine, absent_end_line]
  have endColumn_field : Payload.firstField fields endColumnKeys = endColumn.elim .null .int := by
    rw [← written]
    cases endLine <;> cases endColumn <;>
      simp [Payload.firstField, Payload.field?, endColumnKeys, List.lookup_cons,
        absent_endColumn, absent_end_column]
  have rule_field : Payload.firstField fields ruleKeys = .text ruleId := by
    rw [← written]
    simp [Payload.firstField, Payload.field?, ruleKeys]
  have secondary_field : Payload.firstField fields secondaryKeys = .list secondary := by
    rw [← written]
    simp [Payload.firstField, Payload.field?, secondaryKeys, List.lookup_cons]
  have message_field : Payload.field? fields "message" = some (.text text) := by
    rw [← written]
    simp [Payload.field?, List.lookup_cons]
  have extra_fields : (fields.filter fun (key, _) => !ownKeys.contains key) = extra := by
    rw [← written]
    rw [List.filter_append, kept]
    cases endLine <;> cases endColumn <;> rfl
  rw [line_field, column_field, endLine_field, endColumn_field, rule_field, secondary_field,
    Payload.messageOf, message_field, extra_fields, toInt?_elim, toInt?_elim, toInt?_elim]
  rfl

end DiagnosticOf

/-! ## Parsing errors -/

/-- A parsing error is written as a map that is read as the same parsing error. -/
theorem ParsingError.ofPayload_toPayload (e : ParsingError) : ofPayload e.toPayload = .ok e := by
  obtain ⟨message, line, code⟩ := e
  cases line <;> cases code <;> rfl

/-! ## Reports of files -/

namespace FileReport

open DiagnosticOf

variable {file : FileReport} {issues : List Diagnostic} {item value : Payload}
  {items : List Payload} {entries respelled : List (String × Payload)}

/-- What a payload lists as the findings of a file. -/
def listedItems : Payload → List Payload
  | .map entries => ((Payload.firstField entries ["issues"]).items.toOption).getD []
  | _ => []

/-- The fields of a listed item that are not a finding's own, if it is a finding. -/
def furtherFields? : Payload → Option (List (String × Payload))
  | .map entries => some (entries.filter fun (key, _) => !ownKeys.contains key)
  | .diagnostic d => some d.extra
  | _ => none

/-- The further fields of the findings that a payload lists for a file. -/
def furtherFields (value : Payload) : List (List (String × Payload)) :=
  (listedItems value).filterMap furtherFields?

/-- An item that is read is passed over, or becomes a finding with its further fields. -/
theorem of_readIssues_cons (read : readIssues (item :: items) = .ok issues) :
    (furtherFields? item = none ∧ readIssues items = .ok issues) ∨
      ∃ d rest, issues = d :: rest ∧ readIssues items = .ok rest ∧
        furtherFields? item = some d.extra ∧ (item = .diagnostic d ∨ d.IsRead) := by
  cases item with
  | diagnostic d =>
      obtain ⟨rest, others, same⟩ := Except.exists_of_bind_eq_ok read
      cases same
      exact .inr ⟨d, rest, rfl, others, rfl, .inl rfl⟩
  | map entries =>
      obtain ⟨d, described, read⟩ := Except.exists_of_bind_eq_ok read
      obtain ⟨rest, others, same⟩ := Except.exists_of_bind_eq_ok read
      cases same
      have further : furtherFields? (.map entries) = some d.extra := by
        rw [furtherFields?, (of_ofEntries described).2]
      exact .inr ⟨d, rest, rfl, others, further, .inr ⟨entries, described⟩⟩
  | _ => exact .inl ⟨rfl, read⟩

theorem map_extra_of_readIssues (read : readIssues items = .ok issues) :
    issues.map DiagnosticOf.extra = items.filterMap furtherFields? := by
  induction items generalizing issues with
  | nil =>
      cases read
      rfl
  | cons item items induction =>
      rcases of_readIssues_cons read with ⟨none, others⟩ | ⟨d, rest, rfl, others, further, -⟩
      · rw [List.filterMap_cons_none none, induction others]
      · rw [List.filterMap_cons_some further, List.map_cons, induction others]

/-- The findings that are read were made by reading, if those were that the items hold. -/
theorem isRead_of_readIssues (read : readIssues items = .ok issues)
    (made : ∀ d, .diagnostic d ∈ items → d.IsRead) : ∀ d ∈ issues, d.IsRead := by
  induction items generalizing issues with
  | nil =>
      cases read
      simp
  | cons item items induction =>
      have later (d : Diagnostic) (member : .diagnostic d ∈ items) : d.IsRead :=
        made d (List.mem_cons_of_mem _ member)
      rcases of_readIssues_cons read with ⟨-, others⟩ | ⟨d, rest, rfl, others, -, built | described⟩
      · exact induction others later
      · exact List.forall_mem_cons.mpr ⟨made d (built ▸ List.mem_cons_self), induction others later⟩
      · exact List.forall_mem_cons.mpr ⟨described, induction others later⟩

theorem readIssues_map_toPayload (made : ∀ d ∈ issues, d.IsRead) :
    readIssues (issues.map DiagnosticOf.toPayload) = .ok issues := by
  induction issues with
  | nil => rfl
  | cons d issues induction =>
      obtain ⟨here, others⟩ := List.forall_mem_cons.mp made
      have same : DiagnosticOf.ofPayload d.toPayload = .ok d := ofPayload_toPayload here
      change (DiagnosticOf.ofPayload d.toPayload >>= fun d =>
        readIssues (issues.map DiagnosticOf.toPayload) >>= fun rest => pure (d :: rest)) = _
      rw [same, induction others]
      rfl

/-- What is read of a payload is what its items give. -/
theorem readIssues_listedItems (read : ofPayload value = .ok file) :
    readIssues (listedItems value) = .ok file.issues := by
  cases value with
  | map entries =>
      obtain ⟨error, -, read⟩ := Except.exists_of_bind_eq_ok read
      obtain ⟨items, listed, read⟩ := Except.exists_of_bind_eq_ok read
      obtain ⟨issues, found, read⟩ := Except.exists_of_bind_eq_ok read
      obtain ⟨language, -, same⟩ := Except.exists_of_bind_eq_ok read
      cases same
      rw [listedItems, listed]
      exact found
  | _ => contradiction

/-- The report of a file whose findings were read is written as a map that is read as the same. -/
theorem ofPayload_toPayload (made : ∀ d ∈ file.issues, d.IsRead) :
    ofPayload file.toPayload = .ok file := by
  have found := readIssues_map_toPayload made
  obtain ⟨issues, parsingError, language⟩ := file
  rw [toPayload, ofPayload, ofEntries]
  generalize written : (_ ++ _ : List (String × Payload)) = fields
  have error_field : readParsingError
      (Payload.firstField fields ["parsingError", "parsing_error"]) = .ok parsingError := by
    rw [← written]
    cases parsingError with
    | none => cases language <;> rfl
    | some e =>
        have same := ParsingError.ofPayload_toPayload e
        exact congrArg (Except.map some) same
  have issues_field : (Payload.firstField fields ["issues"]).items =
      .ok (issues.map DiagnosticOf.toPayload) := by
    rw [← written]
    rfl
  have language_field : (Payload.firstField fields ["language"]).toLanguage? = .ok language := by
    rw [← written]
    cases language with
    | none => cases parsingError <;> rfl
    | some language => cases parsingError <;> cases language <;> rfl
  rw [error_field, issues_field, language_field]
  simp only [bind, Except.bind, found]
  rfl

/-! ## Other spellings -/

theorem readIssues_congr {finding other : List (String × Payload)} (first items : List Payload)
    (same : DiagnosticOf.ofEntries other = DiagnosticOf.ofEntries finding) :
    readIssues (first ++ .map other :: items) = readIssues (first ++ .map finding :: items) := by
  induction first with
  | nil => simp only [List.nil_append, readIssues, same]
  | cons item first induction =>
      cases item <;> simp only [List.cons_append, readIssues, induction]

/-- The entries of a file's report in which one key of it, or of one of its findings, is spelled in
its other way. -/
inductive Respells : List (String × Payload) → List (String × Payload) → Prop
  | own {entries respelled : List (String × Payload)}
      (spelled : Payload.Respells [("parsingError", "parsing_error")] entries respelled) :
      Respells entries respelled
  | finding {before after finding other : List (String × Payload)} {first rest : List Payload}
      (spelled : Payload.Respells DiagnosticOf.spellings finding other) :
      Respells (before ++ ("issues", .list (first ++ .map finding :: rest)) :: after)
        (before ++ ("issues", .list (first ++ .map other :: rest)) :: after)

/-- The report of a file is the same when a key in it is spelled in the other way. -/
theorem ofEntries_respells (spelled : Respells entries respelled) :
    ofEntries respelled = ofEntries entries := by
  cases spelled with
  | own spelled =>
      have error := spelled.firstField_eq ["parsingError", "parsing_error"] (by decide)
      have issues := spelled.firstField_eq ["issues"] (by decide)
      have language := spelled.firstField_eq ["language"] (by decide)
      rw [ofEntries, ofEntries, error, issues, language]
  | @finding before after finding other first rest spelled =>
      have outside (key : String) (differs : key ≠ "issues") :
          Payload.field? (before ++ ("issues", .list (first ++ .map other :: rest)) :: after) key =
            Payload.field? (before ++ ("issues", .list (first ++ .map finding :: rest)) :: after)
              key :=
        (Payload.lookup_middle differs).trans (Payload.lookup_middle differs).symm
      have error := Payload.firstField_congr ["parsingError", "parsing_error"]
        fun key member => outside key (by rintro rfl; simp at member)
      have language := Payload.firstField_congr ["language"]
        fun key member => outside key (by rintro rfl; simp at member)
      rw [ofEntries, ofEntries, error, language]
      -- a list of findings under the same key that stands before this one hides it
      cases hidden : before.lookup "issues" with
      | some value =>
          simp [Payload.firstField, Payload.field?, List.lookup_append, hidden]
      | none =>
          have items := readIssues_congr first rest (DiagnosticOf.ofEntries_respells spelled)
          simp [Payload.firstField, Payload.field?, List.lookup_append, hidden, Payload.items, bind,
            Except.bind, items]

end FileReport

/-! ## Answers -/

namespace Report

variable {report start : Report} {path : String}
  {answer respelled file other before after : List (String × Payload)}

/-- The entries of an answer in which one key of a file's report or finding is spelled in its other
way. -/
inductive Respells : List (String × Payload) → List (String × Payload) → Prop
  | bare {before after file other : List (String × Payload)} {path : String}
      (plain : Payload.field? (before ++ (path, .map file) :: after) "files" = none)
      (spelled : FileReport.Respells file other) :
      Respells (before ++ (path, .map file) :: after) (before ++ (path, .map other) :: after)
  | wrapped {outer others before after file other : List (String × Payload)} {path : String}
      (spelled : FileReport.Respells file other) :
      Respells (outer ++ ("files", .map (before ++ (path, .map file) :: after)) :: others)
        (outer ++ ("files", .map (before ++ (path, .map other) :: after)) :: others)

theorem ofFileEntries_respells (spelled : FileReport.Respells file other) :
    ofFileEntries start (before ++ (path, .map other) :: after) =
      ofFileEntries start (before ++ (path, .map file) :: after) := by
  induction before generalizing start with
  | nil =>
      have same := FileReport.ofEntries_respells spelled
      simp only [List.nil_append, ofFileEntries, FileReport.ofPayload, same]
  | cons entry before induction =>
      simp only [List.cons_append, ofFileEntries, induction]

/-- An answer is read as the same report when a key in it is spelled in the other way. -/
theorem ofPayload_respells (spelled : Respells answer respelled) :
    ofPayload (.map respelled) = ofPayload (.map answer) := by
  cases spelled with
  | @bare before after file other path plain spelled =>
      have differs : "files" ≠ path := by
        rintro rfl
        simp [Payload.field?, List.lookup_append] at plain
      have same : Payload.field? (before ++ (path, .map other) :: after) "files" = none :=
        (Payload.lookup_middle differs).trans ((Payload.lookup_middle differs).symm.trans plain)
      rw [ofPayload, ofPayload, plain, same]
      exact ofFileEntries_respells spelled
  | @wrapped outer others before after file other path spelled =>
      rw [ofPayload, ofPayload, Payload.field?, Payload.field?, List.lookup_append,
        List.lookup_append]
      cases hidden : outer.lookup "files" with
      | some value => cases value <;> rfl
      | none => exact ofFileEntries_respells spelled

/-- An answer is read as the same report when keys in it are spelled in their other ways. -/
theorem ofPayload_respelled (spelled : Relation.ReflTransGen Respells answer respelled) :
    ofPayload (.map respelled) = ofPayload (.map answer) := by
  induction spelled with
  | refl => rfl
  | tail _ last induction => exact (ofPayload_respells last).trans induction

/-! ## The report on the wire -/

/-- Every finding that stands in an answer as it was built was made by reading a map. -/
def ListsRead (answer : List (String × Payload)) : Prop :=
  ∀ entry ∈ listed answer, ∀ d, .diagnostic d ∈ FileReport.listedItems entry.2 → d.IsRead

theorem ofFileEntries_map_toPayload {entries : List (String × FileReport)} (start : Report)
    (apart : (start.keys ++ entries.map Prod.fst).Nodup)
    (plain : ∀ entry ∈ entries, '\\' ∉ entry.1.toList)
    (made : ∀ entry ∈ entries, ∀ d ∈ entry.2.issues, d.IsRead) :
    ∃ all, ofFileEntries start (entries.map fun (path, file) => (path, file.toPayload)) = .ok all ∧
      all.entries = start.entries ++ entries := by
  induction entries generalizing start with
  | nil => exact ⟨start, rfl, by simp⟩
  | cons entry entries induction =>
      obtain ⟨slashed, slashes⟩ := List.forall_mem_cons.mp plain
      obtain ⟨first, others⟩ := List.forall_mem_cons.mp made
      rw [List.map_cons, List.append_cons] at apart
      have fresh : entry.1 ∉ start.keys := by
        intro member
        have twice := List.nodup_append'.mp apart.of_append_left
        exact twice.2.2 member (List.mem_singleton_self _)
      have put : (start.put entry.1 entry.2).keys = start.keys ++ [entry.1] :=
        Keyed.keys_put_of_not_mem fresh
      rw [← put] at apart
      obtain ⟨all, rest, whole⟩ := induction _ apart slashes others
      refine ⟨all, ?_, ?_⟩
      · rw [List.map_cons, ofFileEntries_cons]
        refine ⟨entry.2, FileReport.ofPayload_toPayload first, ?_⟩
        rw [unixPath_of_not_mem slashed]
        exact rest
      · rw [whole, Keyed.entries_put_of_not_mem entry.2 fresh]
        simp

/-- A report whose findings were read, under paths with slashes, is written as a map that is read as
the same report. -/
theorem ofPayload_toPayload (plain : ∀ path ∈ report.keys, '\\' ∉ path.toList)
    (made : ∀ entry ∈ report.entries, ∀ d ∈ entry.2.issues, d.IsRead) :
    ofPayload report.toPayload = .ok report := by
  have slashed (entry : String × FileReport) (member : entry ∈ report.entries) :
      '\\' ∉ entry.1.toList :=
    plain entry.1 (List.mem_map_of_mem member)
  obtain ⟨all, read, whole⟩ := ofFileEntries_map_toPayload ∅ report.nodup slashed made
  obtain rfl : all = report := Keyed.eq_of_entries_eq whole
  exact read

/-- An answer that can be read is kept on the wire. The report that it describes is read again from
the map it is written as; each finding of a file has, in their order, the further fields that were
listed for it last, in the report and on the wire; and keys may be spelled in their other ways. -/
theorem keeps_wire (read : ofPayload (.map answer) = .ok report) (made : ListsRead answer) :
    ofPayload report.toPayload = .ok report ∧
      (∀ path, (report.get? path).map (fun file => file.issues.map DiagnosticOf.extra) =
        (lastOf path (listed answer)).map FileReport.furtherFields) ∧
      (∀ path file, report.get? path = some file →
        FileReport.furtherFields file.toPayload = file.issues.map DiagnosticOf.extra) ∧
      ∀ respelled, Relation.ReflTransGen Respells answer respelled →
        ofPayload (.map respelled) = .ok report := by
  have readable (path : String) (file : FileReport) (member : (path, file) ∈ report.entries) :
      ∀ d ∈ file.issues, d.IsRead := by
    obtain ⟨entry, listed, -, taken⟩ := of_mem_ofPayload read member
    exact FileReport.isRead_of_readIssues (FileReport.readIssues_listedItems taken)
      (made entry listed)
  refine ⟨ofPayload_toPayload ?_ ?_, ?_, ?_, ?_⟩
  · intro path member
    obtain ⟨entry, -, rfl⟩ := (mem_keys_ofPayload read).mp member
    exact not_mem_unixPath entry.1
  · rintro ⟨path, file⟩ member
    exact readable path file member
  · intro path
    have last := get?_ofFileEntries (ofFileEntries_listed read) path
    cases under : lastOf path (listed answer) with
    | none =>
        rw [under] at last
        rw [last]
        rfl
    | some value =>
        rw [under] at last
        obtain ⟨file, taken, found⟩ := last
        rw [found]
        exact congrArg some
          (FileReport.map_extra_of_readIssues (FileReport.readIssues_listedItems taken))
  · intro path file found
    have same := readable path file (Keyed.get?_eq_some_iff.mp found)
    exact (FileReport.map_extra_of_readIssues
      (FileReport.readIssues_listedItems (FileReport.ofPayload_toPayload same))).symm
  · intro respelled spelled
    rw [ofPayload_respelled spelled, read]

/-- An answer about a file, with a finding in a map and one that was built from a map. -/
def answerWith (finding : List (String × Payload)) : List (String × Payload) :=
  [("files", .map [("p\\a.js", .map [("issues", .list [.map finding,
    .diagnostic ⟨"S2", none, 0, .text "", none, none, [], [("effort", .text "5min")]⟩])])])]

/-- A finding with a key that has two spellings and a further field. -/
def camelFinding : List (String × Payload) :=
  [("ruleId", .text "S1"), ("line", .int 3), ("quickFix", .bool true)]

/-- The same finding with its key in the other spelling, at another place. -/
def snakeFinding : List (String × Payload) :=
  [("line", .int 3), ("quickFix", .bool true), ("rule_id", .text "S1")]

theorem keeps_wire_answerWith :
    ∃ report, ofPayload (.map (answerWith camelFinding)) = .ok report ∧
      ofPayload report.toPayload = .ok report ∧
      ofPayload (.map (answerWith snakeFinding)) = .ok report ∧
      (report.get? "p/a.js").map (fun file => file.issues.map DiagnosticOf.extra) =
        some [[("quickFix", .bool true)], [("effort", .text "5min")]] := by
  have read : ofPayload (.map (answerWith camelFinding)) = .ok
      (Keyed.empty.put (unixPath "p\\a.js") ⟨[⟨"S1", some 3, 0, .text "", none, none, [],
        [("quickFix", .bool true)]⟩, ⟨"S2", none, 0, .text "", none, none, [],
        [("effort", .text "5min")]⟩], none, none⟩) := rfl
  have made : ListsRead (answerWith camelFinding) := by
    intro entry member d built
    obtain rfl := List.mem_singleton.mp member
    obtain ⟨⟩ | ⟨-, ⟨⟩ | ⟨-, ⟨⟩⟩⟩ := built
    exact ⟨[("ruleId", .text "S2"), ("effort", .text "5min")], rfl⟩
  have spelled : Respells (answerWith camelFinding) (answerWith snakeFinding) := by
    have key : Payload.Respells DiagnosticOf.spellings camelFinding snakeFinding :=
      @Payload.Respells.key _ "ruleId" "rule_id" (.text "S1") []
        [("line", .int 3), ("quickFix", .bool true)] [("line", .int 3), ("quickFix", .bool true)] []
        (by decide) rfl (by simp)
    exact @Respells.wrapped [] [] [] [] _ _ _ (@FileReport.Respells.finding [] [] _ _ [] _ key)
  obtain ⟨again, further, -, respelled⟩ := keeps_wire read made
  refine ⟨_, read, again, respelled _ (.single spelled), ?_⟩
  rw [further]
  rfl

end Report

end Baseline
