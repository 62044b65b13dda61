import Baseline.Analyzer.DataSyntax
import Baseline.Proofs.Yaml.Documents

/-!
# What the analyzer of data files refuses

The analyzer makes the values of all documents, so it also refuses streams whose tags or scalars
mean nothing, and breaks off where a value cannot be made.
-/

namespace Baseline.DataSyntax

open Yaml

/-- Whether an analyzer declares a failure, rather than breaking off. -/
def IsDeclared : Failure → Prop
  | .declared _ _ => True
  | _ => False

/-- The analyzer tells whether a text is a stream: it finds nothing in one, and declares that it
cannot analyze anything else. -/
structure TellsStream (content : String) : Prop where
  clean_iff : (∃ report, analyze content = .ok report ∧ report.issues = []) ↔ IsStream content
  declared : ∀ failure, analyze content = .error failure → IsDeclared failure

variable {content : String}

theorem isDeclared_failureOf (error : Error) :
    IsDeclared (failureOf content error) ↔ error.isDiagnosis = true := by
  cases error with
  | form error => cases error <;> simp [failureOf, Error.marked?, Error.isDiagnosis, IsDeclared]
  | tag problem => simp [failureOf, Error.marked?, Error.isDiagnosis, IsDeclared]
  | scalar error => simp [failureOf, Error.marked?, Error.isDiagnosis, IsDeclared]
  | endless => simp [failureOf, Error.marked?, Error.isDiagnosis, IsDeclared]

theorem analyze_eq_ok_iff {report : FileReport} :
    analyze content = .ok report ↔ report = .clean ∧ check content = .ok () := by
  unfold analyze
  cases check content with
  | ok => simp [eq_comm]
  | error => simp

theorem analyze_eq_error_iff {failure : Failure} :
    analyze content = .error failure ↔
      ∃ error, StopsAt content error ∧ failure = failureOf content error := by
  simp only [← check_eq_error_iff]
  unfold analyze
  cases check content with
  | ok => simp
  | error => simp [eq_comm]

theorem exists_clean_iff :
    (∃ report, analyze content = .ok report ∧ report.issues = []) ↔
      ∃ documents, ReadsAs content documents none ∧ ∀ d ∈ documents, d.HasValue := by
  rw [← check_eq_ok_iff]
  constructor
  · rintro ⟨report, found, -⟩
    exact (analyze_eq_ok_iff.mp found).2
  · intro passed
    exact ⟨.clean, analyze_eq_ok_iff.mpr ⟨rfl, passed⟩, rfl⟩

theorem tellsStream_iff :
    TellsStream content ↔
      (∀ documents, ReadsAs content documents none → ∀ d ∈ documents, d.HasValue) ∧
        ∀ error, StopsAt content error → error.isDiagnosis = true := by
  constructor
  · intro tells
    refine ⟨?_, ?_⟩
    · intro documents reads
      obtain ⟨valued, readsValued, values⟩ :=
        exists_clean_iff.mp (tells.clean_iff.mpr ⟨documents, reads⟩)
      rw [(Composes.unique readsValued reads).1]
      exact values
    · intro error stops
      have failed := analyze_eq_error_iff.mpr ⟨error, stops, rfl⟩
      exact (isDeclared_failureOf error).mp (tells.declared _ failed)
  · rintro ⟨valued, diagnosed⟩
    constructor
    case clean_iff =>
      rw [exists_clean_iff]
      constructor
      · rintro ⟨documents, reads, -⟩
        exact ⟨documents, reads⟩
      · rintro ⟨documents, reads⟩
        exact ⟨documents, reads, valued documents reads⟩
    case declared =>
      intro failure failed
      obtain ⟨error, stops, rfl⟩ := analyze_eq_error_iff.mp failed
      exact (isDeclared_failureOf error).mpr (diagnosed error stops)

/-- The analyzer finds nothing in a stream whose documents have values, and fails on any other text
by its first error, which it declares if that is a diagnosis. So it tells whether a text is a stream
only where all documents of a stream have values and a first error is a diagnosis. -/
theorem analyze_outcome (content : String) :
    (∀ report, analyze content = .ok report ↔ report = .clean ∧
        ∃ documents, ReadsAs content documents none ∧ ∀ d ∈ documents, d.HasValue) ∧
      (∀ failure, analyze content = .error failure ↔
        ∃ error, StopsAt content error ∧ failure = failureOf content error) ∧
      (∀ error, IsDeclared (failureOf content error) ↔ error.isDiagnosis = true) ∧
      (TellsStream content ↔
        (∀ documents, ReadsAs content documents none → ∀ d ∈ documents, d.HasValue) ∧
          ∀ error, StopsAt content error → error.isDiagnosis = true) := by
  refine ⟨?_, fun failure => analyze_eq_error_iff, isDeclared_failureOf, tellsStream_iff⟩
  intro report
  rw [analyze_eq_ok_iff, check_eq_ok_iff]

/-- A stream is refused because of what a scalar of it means, and that is not even declared: there
is no such month. -/
theorem impossibleMonth_not_tellsStream :
    IsStream "a: 2001-99-99\n" ∧
      analyze "a: 2001-99-99\n" =
        .error (.unreadable (.scalar (.calendar .month)) "a: 2001-99-99\n") ∧
      ¬TellsStream "a: 2001-99-99\n" := by
  have stream : IsStream "a: 2001-99-99\n" := by decide +kernel
  have stopped : check "a: 2001-99-99\n" = .error (.scalar (.calendar .month)) := by decide +kernel
  have refused : analyze "a: 2001-99-99\n" =
      .error (.unreadable (.scalar (.calendar .month)) "a: 2001-99-99\n") := by
    rw [analyze, stopped]
    rfl
  exact ⟨stream, refused, fun tells => tells.declared _ refused⟩

end Baseline.DataSyntax
