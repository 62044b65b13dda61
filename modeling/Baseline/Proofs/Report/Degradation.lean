import Baseline.Proofs.Report.Answers

/-!
# Details that cannot be read

Degraded, a detail of an answer that cannot be read is absent, and every path of the answer has an
entry. What is read of an answer is this degraded report, but not every answer with such details is
read: one that is refused, in whatever file, leaves nothing.
-/

namespace Baseline

open Baseline.Except (GivesIff givesIff_ok givesIff_error)

/-! ## Values -/

namespace Payload

/-- The integer in a payload, absent where there is none. -/
def degradedInt : Payload → Option Int
  | .int n => some n
  | .float x => x.truncate.toOption
  | _ => none

/-- A payload is no infinite or undefined number. -/
def IsCountable (value : Payload) : Prop :=
  value ≠ .float .nan ∧ ∀ negative, value ≠ .float (.infinite negative)

theorem toInt?_givesIff (value : Payload) :
    GivesIff value.toInt? value.degradedInt value.IsCountable := by
  cases value with
  | float x =>
      cases x with
      | nan => exact (givesIff_error _ _).congr (by simp [IsCountable])
      | infinite negative => exact (givesIff_error _ _).congr (by simp [IsCountable])
      | finite negative significand exponent => exact (givesIff_ok _).congr (by simp [IsCountable])
  | _ => exact (givesIff_ok _).congr (by simp [IsCountable])

/-- The text of a payload, absent where it cannot be shown. -/
def shownText (value : Payload) : Option String :=
  if value.isShowable then some value.plainText else none

/-- The text in a payload, absent where there is none and where it cannot be shown. -/
def degradedText : Payload → Option String
  | .null => none
  | value => value.shownText

/-- The message among the entries of a map, empty where it cannot be shown. -/
def degradedMessage (entries : List (String × Payload)) : String :=
  ((field? entries "message").bind shownText).getD ""

theorem toText_givesIff (value : Payload) :
    GivesIff value.toText value.plainText value.isShowable := by
  rw [toText]
  cases value.isShowable with
  | false => exact (givesIff_error _ _).congr (by simp)
  | true => exact (givesIff_ok _).congr (by simp)

theorem shownText_of_isShowable {value : Payload} (showable : value.isShowable) :
    value.shownText = some value.plainText := if_pos showable

theorem toText?_givesIff (value : Payload) :
    GivesIff value.toText? value.degradedText value.isShowable := by
  have shown := ((toText_givesIff value).map some).of_imp shownText_of_isShowable
  cases value with
  | null => exact (givesIff_ok _).congr (by simp [isShowable, integers])
  | _ => exact shown

/-- The message among the entries of a map can be shown, if there is one. -/
def TellsMessage (entries : List (String × Payload)) : Prop :=
  ∀ value, field? entries "message" = some value → value.isShowable

theorem messageOf_givesIff (entries : List (String × Payload)) :
    GivesIff (messageOf entries) (degradedMessage entries) (TellsMessage entries) := by
  rw [messageOf, degradedMessage, TellsMessage]
  cases field? entries "message" with
  | none => exact (givesIff_ok _).congr (by simp)
  | some value =>
      refine ((toText_givesIff value).of_imp fun showable => ?_).congr (by simp)
      rw [Option.bind_some, shownText_of_isShowable showable, Option.getD_some]

/-- The items of a list; anything else lists no findings. -/
def listItems : Payload → List Payload
  | .list items => items
  | _ => []

/-- A payload lists items, or counts as absent where a list is optional. -/
def IsListing : Payload → Prop
  | .text _ | .list _ | .map _ => True
  | value => value.isTruthy = false

/-- The language that a payload names, absent where it names none. -/
def degradedLanguage : Payload → Option Language
  | .text s => Language.ofTag? s
  | _ => none

/-- A payload can be looked up among texts. -/
def IsHashable : Payload → Prop
  | .list _ | .map _ | .diagnostic _ | .parsingError _ => False
  | _ => True

theorem toLanguage?_givesIff (value : Payload) :
    GivesIff value.toLanguage? value.degradedLanguage value.IsHashable := by
  cases value with
  | list items => exact givesIff_error _ _
  | map entries => exact givesIff_error _ _
  | diagnostic d => exact givesIff_error _ _
  | parsingError e => exact givesIff_error _ _
  | _ => exact givesIff_ok _

end Payload

/-! ## Findings and parsing errors -/

namespace DiagnosticOf

/-- The finding that the entries of a map describe, what cannot be read in them absent. -/
def degraded (entries : List (String × Payload)) : Diagnostic where
  ruleId := (Payload.firstField entries ruleKeys).degradedText.getD ""
  line := (Payload.firstField entries ["line"]).degradedInt
  column := (Payload.firstField entries ["column"]).degradedInt.getD 0
  message := .text (Payload.degradedMessage entries)
  endLine := (Payload.firstField entries endLineKeys).degradedInt
  endColumn := (Payload.firstField entries endColumnKeys).degradedInt
  secondary := (Payload.firstField entries secondaryKeys).listItems
  extra := entries.filter fun (key, _) => !ownKeys.contains key

/-- All that the entries of a map say of a finding can be read. -/
structure IsReadable (entries : List (String × Payload)) : Prop where
  rule : (Payload.firstField entries ruleKeys).isShowable
  line : (Payload.firstField entries ["line"]).IsCountable
  column : (Payload.firstField entries ["column"]).IsCountable
  message : Payload.TellsMessage entries
  endLine : (Payload.firstField entries endLineKeys).IsCountable
  endColumn : (Payload.firstField entries endColumnKeys).IsCountable

theorem ofEntries_givesIff (entries : List (String × Payload)) :
    GivesIff (ofEntries entries) (degraded entries) (IsReadable entries) := by
  refine GivesIff.congr ((Payload.toText?_givesIff _).bind <| (Payload.toInt?_givesIff _).bind <|
    (Payload.toInt?_givesIff _).bind <| (Payload.messageOf_givesIff entries).bind <|
    (Payload.toInt?_givesIff _).bind <| (Payload.toInt?_givesIff _).bind <| givesIff_ok _) ?_
  constructor
  · rintro ⟨rule, line, column, message, endLine, endColumn, -⟩
    exact ⟨rule, line, column, message, endLine, endColumn⟩
  · rintro ⟨rule, line, column, message, endLine, endColumn⟩
    exact ⟨rule, line, column, message, endLine, endColumn, trivial⟩

end DiagnosticOf

namespace ParsingError

/-- The parsing error that the entries of a map describe, what cannot be read in them absent. -/
def degraded (entries : List (String × Payload)) : ParsingError where
  message := Payload.degradedMessage entries
  line := (Payload.firstField entries ["line"]).degradedInt
  code := (Payload.firstField entries ["code"]).degradedText

/-- All that the entries of a map say of a parsing error can be read. -/
structure IsReadable (entries : List (String × Payload)) : Prop where
  message : Payload.TellsMessage entries
  line : (Payload.firstField entries ["line"]).IsCountable
  code : (Payload.firstField entries ["code"]).isShowable

theorem ofEntries_givesIff (entries : List (String × Payload)) :
    GivesIff (ofEntries entries) (degraded entries) (IsReadable entries) := by
  refine GivesIff.congr ((Payload.messageOf_givesIff entries).bind <|
    (Payload.toInt?_givesIff _).bind <| (Payload.toText?_givesIff _).bind <| givesIff_ok _) ?_
  constructor
  · rintro ⟨message, line, code, -⟩
    exact ⟨message, line, code⟩
  · rintro ⟨message, line, code⟩
    exact ⟨message, line, code, trivial⟩

end ParsingError

/-! ## Reports of files -/

namespace FileReport

/-- The parsing error that a payload is or describes. -/
def degradedError : Payload → Option ParsingError
  | .parsingError e => some e
  | .map entries => some (ParsingError.degraded entries)
  | _ => none

/-- The finding that a payload is or describes. -/
def degradedFinding : Payload → Option Diagnostic
  | .diagnostic d => some d
  | .map entries => some (DiagnosticOf.degraded entries)
  | _ => none

theorem readParsingError_givesIff (value : Payload) :
    GivesIff (readParsingError value) (degradedError value)
      (∀ entries, value = .map entries → ParsingError.IsReadable entries) := by
  cases value with
  | map entries => exact ((ParsingError.ofEntries_givesIff entries).map some).congr (by simp)
  | _ => exact (givesIff_ok _).congr (by simp)

/-- Items are read exactly if the findings among them that are described can be. -/
theorem readIssues_givesIff (items : List Payload) :
    GivesIff (readIssues items) (items.filterMap degradedFinding)
      (∀ entries, .map entries ∈ items → DiagnosticOf.IsReadable entries) := by
  induction items with
  | nil => exact (givesIff_ok _).congr (by simp)
  | cons item items induction =>
      cases item with
      | diagnostic d =>
          refine GivesIff.congr (induction.bind <| givesIff_ok _) ?_
          simp
      | map entries =>
          refine GivesIff.congr
            ((DiagnosticOf.ofEntries_givesIff entries).bind <| induction.bind <| givesIff_ok _) ?_
          simp [forall_eq_or_imp]
      | _ => exact induction.congr (by simp)

/-- Texts describe no findings. -/
theorem readIssues_texts {α : Type} (items : List α) (spell : α → String) :
    GivesIff (readIssues (items.map fun item => .text (spell item))) [] True := by
  induction items with
  | nil => exact givesIff_ok _
  | cons item items induction => exact induction

/-- The findings that a payload lists are read exactly if it lists items, and those among them that
are described can be read. -/
theorem readListed_givesIff (value : Payload) :
    GivesIff (value.items >>= readIssues) (value.listItems.filterMap degradedFinding)
      (value.IsListing ∧
        ∀ entries, .map entries ∈ value.listItems → DiagnosticOf.IsReadable entries) := by
  -- a payload without items is passed over if it counts as absent, and refused if not
  have single (lists : value.items =
      if value.isTruthy then .error (.notIterable value.kindName) else .ok []) :
      GivesIff (value.items >>= readIssues) [] (value.isTruthy = false) := by
    rw [lists]
    cases value.isTruthy with
    | false => exact (givesIff_ok _).congr (by simp)
    | true => exact (givesIff_error _ _).congr (by simp)
  cases value with
  | list items => exact (readIssues_givesIff items).congr (iff_of_eq (true_and _).symm)
  | text s =>
      have characters := readIssues_texts s.toList fun c => String.ofList [c]
      exact characters.congr (by simp [Payload.IsListing, Payload.listItems])
  | map entries =>
      have keys := readIssues_texts entries Prod.fst
      exact keys.congr (by simp [Payload.IsListing, Payload.listItems])
  | _ => exact (single rfl).congr (by simp [Payload.IsListing, Payload.listItems])

/-- The report of a file that the entries of a map describe, what cannot be read in them absent. -/
def degradedOf (entries : List (String × Payload)) : FileReport where
  issues := (Payload.firstField entries ["issues"]).listItems.filterMap degradedFinding
  parsingError := degradedError (Payload.firstField entries ["parsingError", "parsing_error"])
  language := (Payload.firstField entries ["language"]).degradedLanguage

/-- All that the entries of a map say of a file can be read. -/
structure IsReadable (entries : List (String × Payload)) : Prop where
  error : ∀ error, Payload.firstField entries ["parsingError", "parsing_error"] = .map error →
    ParsingError.IsReadable error
  listing : (Payload.firstField entries ["issues"]).IsListing
  findings : ∀ finding, .map finding ∈ (Payload.firstField entries ["issues"]).listItems →
    DiagnosticOf.IsReadable finding
  language : (Payload.firstField entries ["language"]).IsHashable

theorem ofEntries_givesIff (entries : List (String × Payload)) :
    GivesIff (ofEntries entries) (degradedOf entries) (IsReadable entries) := by
  -- what is listed matters only for the findings in it, so the two steps that read them are one
  refine GivesIff.congr ((readParsingError_givesIff _).bind <| .assoc <|
    (readListed_givesIff _).bind <| (Payload.toLanguage?_givesIff _).bind <| givesIff_ok _) ?_
  constructor
  · rintro ⟨error, ⟨listing, findings⟩, language, -⟩
    exact ⟨error, listing, findings, language⟩
  · rintro ⟨error, listing, findings, language⟩
    exact ⟨error, ⟨listing, findings⟩, language, trivial⟩

/-- The report of a file that a payload describes, clean where it describes none. -/
def degraded : Payload → FileReport
  | .map entries => degradedOf entries
  | _ => clean

theorem ofPayload_givesIff (value : Payload) :
    GivesIff (ofPayload value) (degraded value)
      (∃ entries, value = .map entries ∧ IsReadable entries) := by
  cases value with
  | map entries => exact (ofEntries_givesIff entries).congr (by simp)
  | _ => exact (givesIff_error _ _).congr (by simp)

end FileReport

/-! ## Answers -/

namespace Report

open Keyed

variable {answer entries : List (String × Payload)} {start : Report} {path : String}

/-- An entry of an answer put in order, what cannot be read in it absent. -/
def putDegraded (report : Report) (entry : String × Payload) : Report :=
  report.put (unixPath entry.1) (FileReport.degraded entry.2)

/-- The report that an answer describes, what cannot be read in it absent. -/
def degraded (answer : List (String × Payload)) : Report :=
  (listed answer).foldl putDegraded ∅

theorem get?_foldl_putDegraded :
    (entries.foldl putDegraded start).get? path =
      ((lastOf path entries).map FileReport.degraded).or (start.get? path) := by
  induction entries generalizing start with
  | nil => rfl
  | cons entry entries induction =>
      rw [List.foldl_cons, induction, lastOf_cons, putDegraded, get?_put, Option.map_or,
        Option.or_assoc]
      congr 1
      by_cases same : unixPath entry.1 = path
      · simp [same]
      · simp [same, Ne.symm same]

/-- Degraded, an answer has an entry for each path that it lists: what is listed for it last. -/
theorem get?_degraded (answer : List (String × Payload)) (path : String) :
    (degraded answer).get? path = (lastOf path (listed answer)).map FileReport.degraded := by
  rw [degraded, get?_foldl_putDegraded]
  exact Option.or_none

theorem ofFileEntries_givesIff (start : Report) (entries : List (String × Payload)) :
    GivesIff (ofFileEntries start entries) (entries.foldl putDegraded start)
      (∀ entry ∈ entries, ∃ fields, entry.2 = .map fields ∧ FileReport.IsReadable fields) := by
  induction entries generalizing start with
  | nil => exact (givesIff_ok _).congr (by simp)
  | cons entry entries induction =>
      refine GivesIff.congr ((FileReport.ofPayload_givesIff _).bind <| induction _) ?_
      rw [List.forall_mem_cons]

/-- What an answer has as its files lists reports, if it has files. -/
def ListsFiles (answer : List (String × Payload)) : Prop :=
  ∀ files, Payload.field? answer "files" = some files → ∃ entries, files = .map entries

theorem ofPayload_of_listsFiles (lists : ListsFiles answer) :
    ofPayload (.map answer) = ofFileEntries ∅ (listed answer) := by
  rw [ofPayload, listed]
  cases found : Payload.field? answer "files" with
  | none => rfl
  | some files =>
      obtain ⟨entries, rfl⟩ := lists files found
      rfl

theorem ofPayload_of_not_listsFiles (not : ¬ListsFiles answer) :
    ofPayload (.map answer) = .error .files := by
  obtain ⟨files, not⟩ := not_forall.mp not
  obtain ⟨found, noMap⟩ := Classical.not_imp.mp not
  rw [ofPayload, found]
  cases files with
  | map entries => exact (noMap ⟨entries, rfl⟩).elim
  | _ => rfl

theorem mem_keys_degraded (answer : List (String × Payload)) (path : String) :
    path ∈ (degraded answer).keys ↔ ∃ entry ∈ listed answer, unixPath entry.1 = path := by
  rw [← not_iff_not, ← get?_eq_none_iff, get?_degraded]
  simp [lastOf]

/-- All that an answer says can be read: it lists reports, and all of them can. -/
structure IsReadable (answer : List (String × Payload)) : Prop where
  files : ListsFiles answer
  reports : ∀ entry ∈ listed answer,
    ∃ entries, entry.2 = .map entries ∧ FileReport.IsReadable entries

theorem ofPayload_givesIff (answer : List (String × Payload)) :
    GivesIff (ofPayload (.map answer)) (degraded answer) (IsReadable answer) := by
  by_cases lists : ListsFiles answer
  · rw [ofPayload_of_listsFiles lists]
    refine (ofFileEntries_givesIff ∅ (listed answer)).congr ?_
    constructor
    · exact IsReadable.mk lists
    · exact IsReadable.reports
  · rw [ofPayload_of_not_listsFiles lists]
    refine (givesIff_error _ _).congr ?_
    exact iff_of_false id fun readable => lists readable.files

/-- An answer is read, what cannot be read in it absent. -/
def Degrades (answer : List (String × Payload)) : Prop :=
  ofPayload (.map answer) = .ok (degraded answer)

/-- Degraded, an answer has an entry for each path that it lists. Nothing else is read of it, but
this only if there is nothing to degrade: no number without an integer where one is read, no integer
with too many digits in a text, no other value in place of the list of findings or of the language.
So a detail of one file that would have to be degraded leaves no entry for any file. -/
theorem degrades_iff (answer : List (String × Payload)) :
    (∀ path, path ∈ (degraded answer).keys ↔ ∃ entry ∈ listed answer, unixPath entry.1 = path) ∧
      (∀ path,
        (degraded answer).get? path = (lastOf path (listed answer)).map FileReport.degraded) ∧
      ((∃ report, ofPayload (.map answer) = .ok report) ↔ Degrades answer) ∧
      (Degrades answer ↔ IsReadable answer) := by
  have gives := ofPayload_givesIff answer
  refine ⟨mem_keys_degraded answer, get?_degraded answer, ?_, ?_⟩
  · constructor
    · rintro ⟨report, read⟩
      obtain ⟨rfl, -⟩ := (gives report).mp read
      exact read
    · exact fun read => ⟨_, read⟩
  · rw [Degrades, gives]
    exact and_iff_right rfl

/-- An answer with a finding in one file, on a line that is a number, and no findings in another. -/
def answerOnLine (line : Binary64) : List (String × Payload) :=
  [("p/a.js", .map [("issues", .list [.map [("ruleId", .text "S1"), ("line", .float line)]])]),
    ("p/b.js", .map [])]

/-- A finding on an infinite line could be one on no line, but leaves both files without an
entry. -/
theorem infiniteLine_not_degrades :
    listed (answerOnLine (.infinite false)) = answerOnLine (.infinite false) ∧
      (degraded (answerOnLine (.infinite false))).keys = ["p/a.js", "p/b.js"] ∧
      ((degraded (answerOnLine (.infinite false))).get? "p/a.js").map
        (fun file => file.issues.map DiagnosticOf.line) = some [none] ∧
      ¬Degrades (answerOnLine (.infinite false)) ∧
      ¬∃ report, ofPayload (.map (answerOnLine (.infinite false))) = .ok report := by
  have refused : ofPayload (.map (answerOnLine (.infinite false))) =
      .error (.notIntegral .infinity) := rfl
  refine ⟨rfl, rfl, rfl, ?_, ?_⟩
  · rw [Degrades, refused]
    exact nofun
  · rw [refused]
    exact nofun

end Report

end Baseline
