import Baseline.Yaml.Construction

/-!
# The documents of a stream

What the composer makes of the events of a text, told without fuel: documents up to the end of the
stream, or up to the first error of form. The values of a document are made before the next document
is composed, so a check ends at the first document that has none, or else at the error of form.
-/

namespace Baseline.Yaml

instance decidableEqExcept {ε α : Type} [DecidableEq ε] [DecidableEq α] :
    DecidableEq (Except ε α)
  | .error e, .error f => decidable_of_iff (e = f) (Iff.of_eq (Except.error.injEq e f).symm)
  | .ok a, .ok b => decidable_of_iff (a = b) (Iff.of_eq (Except.ok.injEq a b).symm)
  | .error _, .ok _ => isFalse nofun
  | .ok _, .error _ => isFalse nofun

/-- The composer makes documents of events, up to the end of the stream or to an error of form.
`broken` is the error after the events. -/
inductive Composes (broken : Option FormError) :
    List Event → List Document → Option FormError → Prop where
  | finished {events} (finished : upcoming broken events = .finished) :
      Composes broken events [] none
  | unread {events error} (failed : upcoming broken events = .failed error) :
      Composes broken events [] (some error)
  | uncomposed {events start rest error} (begins : upcoming broken events = .document start rest)
      (failed : Composition.run (broken.getD unexpectedEnd) {} rest = .error error) :
      Composes broken events [] (some error)
  | document {events start rest document later documents ending}
      (begins : upcoming broken events = .document start rest)
      (composed : Composition.run (broken.getD unexpectedEnd) {} rest = .ok (document, later))
      (others : Composes broken later documents ending) :
      Composes broken events (document :: documents) ending

/-- What the scanner, the parser and the composer make of a text. -/
def ReadsAs (s : String) (documents : List Document) (ending : Option FormError) : Prop :=
  Composes (Events.ofText s).ending (Events.ofText s).events documents ending

/-- The scanner, the parser and the composer accept a text. -/
def IsStream (s : String) : Prop := ∃ documents, ReadsAs s documents none

/-- All nodes of a document have values. -/
def Document.HasValue (document : Document) : Prop := ∃ graph, document.value = .ok graph

/-- An error is the first one of a text. -/
inductive StopsAt (s : String) : Error → Prop where
  | form {documents error} (reads : ReadsAs s documents (some error))
      (valued : ∀ d ∈ documents, d.HasValue) : StopsAt s (.form error)
  | value {earlier document later ending error}
      (reads : ReadsAs s (earlier ++ document :: later) ending)
      (valued : ∀ d ∈ earlier, d.HasValue) (failed : document.value = .error error) :
      StopsAt s error

variable {broken ending : Option FormError} {events later rest : List Event} {start : Mark}
  {document : Document} {documents : List Document}

/-! ## Every document takes events away -/

theorem length_lt_of_upcoming (begins : upcoming broken events = .document start rest) :
    rest.length < events.length := by
  induction events with
  | nil => cases broken <;> simp [upcoming] at begins
  | cons event events induction =>
      unfold upcoming at begins
      split at begins
      · have shorter := induction begins
        simp only [List.length_cons]
        omega
      · contradiction
      · cases begins
        simp

theorem length_lt_of_run {failure : FormError} {c : Composition}
    (composed : Composition.run failure c events = .ok (document, later)) :
    later.length < events.length := by
  induction events generalizing c with
  | nil => simp [Composition.run] at composed
  | cons event events induction =>
      unfold Composition.run at composed
      split at composed
      · cases composed
        simp
      · split at composed
        · contradiction
        · have shorter := induction composed
          simp only [List.length_cons]
          omega

/-! ## The documents of a text -/

theorem documentsFrom_done (done : List Document) (fuel : Nat) :
    documentsFrom broken done fuel events =
      ⟨done.reverse ++ (documentsFrom broken [] fuel events).documents,
        (documentsFrom broken [] fuel events).ending⟩ := by
  induction fuel generalizing done events with
  | zero => simp [documentsFrom]
  | succ fuel induction =>
      unfold documentsFrom
      cases upcoming broken events with
      | finished => simp
      | failed => simp
      | document start rest =>
          cases composed : Composition.run (broken.getD unexpectedEnd) {} rest with
          | error => simp [composed]
          | ok result =>
              simp only [composed]
              rw [induction (result.1 :: done), induction [result.1]]
              simp

/-- With fuel for its events, what `documentsFrom` finds is what the composer makes of them. -/
theorem composes_documentsFrom {fuel : Nat} (enough : events.length ≤ fuel) :
    Composes broken events (documentsFrom broken [] (fuel + 1) events).documents
      (documentsFrom broken [] (fuel + 1) events).ending := by
  induction fuel using Nat.strongRecOn generalizing events with
  | ind fuel induction =>
      unfold documentsFrom
      cases begins : upcoming broken events with
      | finished => exact .finished begins
      | failed => exact .unread begins
      | document start rest =>
          have fewer := length_lt_of_upcoming begins
          cases composed : Composition.run (broken.getD unexpectedEnd) {} rest with
          | error =>
              simp only [composed]
              exact .uncomposed begins composed
          | ok result =>
              have least := length_lt_of_run composed
              obtain ⟨less, rfl⟩ : ∃ less, fuel = less + 1 := ⟨fuel - 1, by omega⟩
              simp only [composed]
              rw [documentsFrom_done]
              exact .document begins composed (induction less (by omega) (by omega))

theorem Composes.unique (composes : Composes broken events documents ending)
    {documents' : List Document} {ending' : Option FormError}
    (also : Composes broken events documents' ending') :
    documents' = documents ∧ ending' = ending := by
  induction composes generalizing documents' with
  | finished next => cases also <;> simp_all
  | unread next => cases also <;> simp_all
  | uncomposed begins failed => cases also <;> simp_all
  | document begins composed _ induction =>
      cases also with
      | document begins' composed' others' =>
          cases begins.symm.trans begins'
          cases composed.symm.trans composed'
          simp [induction others']
      | _ => simp_all

theorem readsAs_iff {s : String} :
    ReadsAs s documents ending ↔ Documents.ofText s = ⟨documents, ending⟩ := by
  have found : ReadsAs s (Documents.ofText s).documents (Documents.ofText s).ending :=
    composes_documentsFrom Nat.le.refl
  constructor
  · intro reads
    obtain ⟨sameDocuments, sameEnding⟩ := Composes.unique reads found
    rw [← sameDocuments, ← sameEnding]
  · intro equal
    rw [equal] at found
    exact found

theorem isStream_iff {s : String} : IsStream s ↔ (Documents.ofText s).ending = none := by
  simp only [IsStream, readsAs_iff]
  constructor
  · rintro ⟨documents, equal⟩
    rw [equal]
  · intro whole
    exact ⟨(Documents.ofText s).documents, by rw [← whole]⟩

instance : DecidablePred IsStream := fun _ => decidable_of_iff' _ isStream_iff

/-! ## The check of a text -/

theorem checkDocuments_append {earlier : List Document} (valued : ∀ d ∈ earlier, d.HasValue) :
    checkDocuments ending (earlier ++ documents) = checkDocuments ending documents := by
  induction earlier with
  | nil => rfl
  | cons document earlier induction =>
      obtain ⟨⟨graph, value⟩, others⟩ := List.forall_mem_cons.mp valued
      simp only [List.cons_append, checkDocuments, value]
      exact induction others

/-- Documents either have values, or there is a first one that has none. -/
theorem hasValue_or_first (documents : List Document) :
    (∀ d ∈ documents, d.HasValue) ∨ ∃ earlier document later error,
      documents = earlier ++ document :: later ∧ (∀ d ∈ earlier, d.HasValue) ∧
        document.value = .error error := by
  induction documents with
  | nil => exact .inl (by simp)
  | cons document documents induction =>
      cases value : document.value with
      | error error => exact .inr ⟨[], document, documents, error, rfl, by simp, value⟩
      | ok graph =>
          have first : document.HasValue := ⟨graph, value⟩
          obtain valued | ⟨earlier, other, later, error, rfl, valued, failed⟩ := induction
          · exact .inl (List.forall_mem_cons.mpr ⟨first, valued⟩)
          · exact .inr ⟨document :: earlier, other, later, error, rfl,
              List.forall_mem_cons.mpr ⟨first, valued⟩, failed⟩

theorem ReadsAs.check_eq {s : String} (reads : ReadsAs s documents ending) :
    check s = checkDocuments ending documents := by
  rw [check, readsAs_iff.mp reads]

theorem ReadsAs.check_eq_ok {s : String} (reads : ReadsAs s documents none)
    (valued : ∀ d ∈ documents, d.HasValue) : check s = .ok () := by
  rw [reads.check_eq, ← List.append_nil documents, checkDocuments_append valued]
  rfl

theorem StopsAt.check_eq {s : String} {error : Error} (stops : StopsAt s error) :
    check s = .error error := by
  cases stops with
  | @form documents error reads valued =>
      rw [reads.check_eq, ← List.append_nil documents, checkDocuments_append valued]
      rfl
  | value reads valued failed =>
      rw [reads.check_eq, checkDocuments_append valued, checkDocuments, failed]

/-- A text is a stream of documents with values, or it has a first error. -/
theorem valued_or_stopsAt (s : String) :
    (∃ documents, ReadsAs s documents none ∧ ∀ d ∈ documents, d.HasValue) ∨
      ∃ error, StopsAt s error := by
  have reads : ReadsAs s (Documents.ofText s).documents (Documents.ofText s).ending :=
    readsAs_iff.mpr rfl
  obtain valued | ⟨earlier, document, later, error, split, valued, failed⟩ :=
    hasValue_or_first (Documents.ofText s).documents
  · cases ends : (Documents.ofText s).ending with
    | none => exact .inl ⟨_, ends ▸ reads, valued⟩
    | some error => exact .inr ⟨_, .form (ends ▸ reads) valued⟩
  · rw [split] at reads
    exact .inr ⟨error, .value reads valued failed⟩

/-- A text passes the check exactly if it is a stream whose documents all have values. -/
theorem check_eq_ok_iff {s : String} :
    check s = .ok () ↔ ∃ documents, ReadsAs s documents none ∧ ∀ d ∈ documents, d.HasValue := by
  constructor
  · intro passed
    obtain valued | ⟨error, stops⟩ := valued_or_stopsAt s
    · exact valued
    · cases passed.symm.trans stops.check_eq
  · rintro ⟨documents, reads, valued⟩
    exact reads.check_eq_ok valued

/-- A text that does not pass the check is stopped by its first error. -/
theorem check_eq_error_iff {s : String} {error : Error} :
    check s = .error error ↔ StopsAt s error := by
  constructor
  · intro stopped
    obtain ⟨documents, reads, valued⟩ | ⟨other, stops⟩ := valued_or_stopsAt s
    · cases stopped.symm.trans (reads.check_eq_ok valued)
    · cases stopped.symm.trans stops.check_eq
      exact stops
  · exact StopsAt.check_eq

end Baseline.Yaml
