import Baseline.Proofs.Discovery.Pass
import Baseline.Proofs.Text.Blank
import Mathlib.Data.List.Infix

/-!
# What counts as a bundle

A bundle starts with the call of a negated function. A comment may stand before it, and that may be
taken to end at any end of a comment that is followed by such a call, so what stands between the
first end and that one is skipped as if it were a comment too. Such a script is dropped from
discovery.
-/

namespace Baseline.Source

open Text

variable {cs before comment other rest more : List Char} {content : String}

/-! ## Calls after a comment -/

/-- A text starts, after blanks, with `!function`, and then, after blanks, with a parenthesis. -/
def Calls (cs : List Char) : Prop :=
  ∃ before between rest, AreBlank before ∧ AreBlank between ∧
    cs = before ++ "!function".toList ++ between ++ '(' :: rest

/-- A text starts with such a call, or with one after blanks and a comment that holds a text of some
kind. -/
def CallsAfter (holds : List Char → Prop) (cs : List Char) : Prop :=
  Calls cs ∨ ∃ before comment rest, AreBlank before ∧ holds comment ∧ Calls rest ∧
    cs = before ++ '/' :: '*' :: comment ++ '*' :: '/' :: rest

/-- No comment ends within a text. -/
def Unbroken (cs : List Char) : Prop := ¬['*', '/'] <:+: cs

instance (cs : List Char) : Decidable (Unbroken cs) :=
  inferInstanceAs (Decidable (¬['*', '/'] <:+: cs))

/-- A text is taken for a bundle exactly if it starts with a call, possibly after one comment, which
ends at the first end of a comment. -/
def TellsBundle (content : String) : Prop :=
  isBundle content = true ↔ CallsAfter Unbroken content.toList

/-- After blanks and a comment there is something that starts with no call and has a later end of a
comment, after which there is a call. -/
def SkipsText (cs : List Char) : Prop :=
  ∃ before comment skipped rest, AreBlank before ∧ Unbroken comment ∧
    ¬Calls (skipped ++ '*' :: '/' :: rest) ∧ Calls rest ∧
    cs = before ++ '/' :: '*' :: comment ++ '*' :: '/' :: (skipped ++ '*' :: '/' :: rest)

/-- Trimming takes away the blanks before a call. -/
theorem trimLeft_call (blank : AreBlank before) (rest : List Char) :
    trimLeft (before ++ "!function".toList ++ rest) = "!function".toList ++ rest := by
  obtain ⟨letters, function⟩ : ∃ letters, "!function".toList = '!' :: letters := ⟨_, rfl⟩
  rw [function]
  exact (trimLeft_eq_cons_iff (by decide)).mpr ⟨before, blank, by simp⟩

/-- Trimming takes away the blanks before a comment. -/
theorem trimLeft_comment (blank : AreBlank before) (comment rest : List Char) :
    trimLeft (before ++ '/' :: '*' :: comment ++ '*' :: '/' :: rest) =
      '/' :: '*' :: (comment ++ '*' :: '/' :: rest) :=
  (trimLeft_eq_cons_iff (by decide)).mpr ⟨before, blank, by simp⟩

theorem startsWithBundle_iff : startsWithBundle cs = true ↔ Calls cs := by
  obtain ⟨letters, function⟩ : ∃ letters, "!function".toList = '!' :: letters := ⟨_, rfl⟩
  constructor
  · intro starts
    simp only [startsWithBundle, Bool.and_eq_true, List.isPrefixOf_iff_prefix, beq_iff_eq] at starts
    obtain ⟨⟨tail, spelled⟩, opens⟩ := starts
    rw [← spelled, List.drop_left, List.head?_eq_some_iff] at opens
    obtain ⟨rest, opens⟩ := opens
    obtain ⟨between, blankBetween, rfl⟩ := (trimLeft_eq_cons_iff (by decide)).mp opens
    rw [function] at spelled
    obtain ⟨before, blankBefore, rfl⟩ := (trimLeft_eq_cons_iff (by decide)).mp spelled.symm
    exact ⟨before, between, rest, blankBefore, blankBetween, by simp [function]⟩
  · rintro ⟨before, between, rest, blankBefore, blankBetween, rfl⟩
    have opens : trimLeft (between ++ '(' :: rest) = '(' :: rest :=
      (trimLeft_eq_cons_iff (by decide)).mpr ⟨between, blankBetween, rfl⟩
    rw [List.append_assoc]
    simp only [startsWithBundle, trimLeft_call blankBefore, List.drop_left, opens, Bool.and_eq_true,
      List.isPrefixOf_iff_prefix]
    exact ⟨List.prefix_append _ _, rfl⟩

/-- A text that starts with a call does not start with a comment. -/
theorem Calls.trimLeft_ne (calls : Calls cs) : trimLeft cs ≠ '/' :: rest := by
  obtain ⟨letters, function⟩ : ∃ letters, "!function".toList = '!' :: letters := ⟨_, rfl⟩
  obtain ⟨before, between, more, blank, -, rfl⟩ := calls
  rw [List.append_assoc, trimLeft_call blank, function]
  simp

theorem hasBundleAfterComment_iff :
    hasBundleAfterComment cs = true ↔
      ∃ comment rest, cs = comment ++ '*' :: '/' :: rest ∧ Calls rest := by
  fun_induction hasBundleAfterComment cs with
  | case1 rest induction =>
      rw [Bool.or_eq_true, startsWithBundle_iff, induction]
      constructor
      · rintro (calls | ⟨comment, more, rfl, calls⟩)
        · exact ⟨[], rest, rfl, calls⟩
        · exact ⟨'*' :: '/' :: comment, more, rfl, calls⟩
      · rintro ⟨comment, more, spelled, calls⟩
        match comment with
        | [] =>
            simp at spelled
            exact .inl (spelled ▸ calls)
        | [c] => simp at spelled
        | c :: d :: comment =>
            simp at spelled
            exact .inr ⟨comment, more, spelled.2.2, calls⟩
  | case2 c rest open_ induction =>
      rw [induction]
      constructor
      · rintro ⟨comment, more, rfl, calls⟩
        exact ⟨c :: comment, more, rfl, calls⟩
      · rintro ⟨comment, more, spelled, calls⟩
        cases comment with
        | nil =>
            simp at spelled
            exact (open_ _ spelled.1 spelled.2).elim
        | cons d comment => exact ⟨comment, more, (List.cons.inj spelled).2, calls⟩
  | case3 => simp

theorem startsWithBundle_trimLeft (cs : List Char) :
    startsWithBundle (trimLeft cs) = startsWithBundle cs := by
  rw [startsWithBundle, startsWithBundle, trimLeft_trimLeft]

theorem isBundle_iff_callsAfter :
    isBundle content = true ↔ CallsAfter (fun _ => True) content.toList := by
  rw [isBundle, Bool.or_eq_true, startsWithBundle_trimLeft, startsWithBundle_iff, CallsAfter]
  refine or_congr_right ?_
  constructor
  · intro found
    split at found
    · rename_i rest opens
      obtain ⟨before, blank, spelled⟩ := (trimLeft_eq_cons_iff (by decide)).mp opens
      obtain ⟨comment, more, rfl, calls⟩ := hasBundleAfterComment_iff.mp found
      exact ⟨before, comment, more, blank, trivial, calls, by simp [spelled]⟩
    · contradiction
  · rintro ⟨before, comment, rest, blank, -, calls, spelled⟩
    simp only [spelled, trimLeft_comment blank]
    exact hasBundleAfterComment_iff.mpr ⟨comment, rest, rfl, calls⟩

/-! ## Where a comment ends -/

/-- A text in which a comment ends has a first end of one. -/
theorem unbroken_or_exists (cs : List Char) :
    Unbroken cs ∨ ∃ first rest, Unbroken first ∧ cs = first ++ '*' :: '/' :: rest := by
  induction cs with
  | nil => exact .inl (by simp [Unbroken])
  | cons c cs induction =>
      by_cases ends : ['*', '/'] <+: c :: cs
      · obtain ⟨rest, spelled⟩ := ends
        exact .inr ⟨[], rest, by simp [Unbroken], spelled.symm⟩
      · rcases induction with whole | ⟨first, rest, whole, rfl⟩
        · exact .inl fun broken => (List.infix_cons_iff.mp broken).elim ends whole
        · refine .inr ⟨c :: first, rest, fun broken => ?_, rfl⟩
          rcases List.infix_cons_iff.mp broken with starts | inside
          · exact ends (starts.trans (List.prefix_append (c :: first) _))
          · exact whole inside

/-- The first end of a comment is in one place. -/
theorem Unbroken.unique (whole : Unbroken comment) (wholeOther : Unbroken other)
    (same : comment ++ '*' :: '/' :: rest = other ++ '*' :: '/' :: more) :
    comment = other ∧ rest = more := by
  -- a text that goes on after the first end has that end in it
  have ends {first second rest more : List Char} (between : List Char)
      (spelled : second = first ++ between) (whole : Unbroken second)
      (goesOn : '*' :: '/' :: rest = between ++ '*' :: '/' :: more) :
      first = second ∧ rest = more := by
    match between with
    | [] => simp_all
    | [c] => simp at goesOn
    | c :: d :: between =>
        simp only [List.cons_append, List.cons.injEq] at goesOn
        obtain ⟨rfl, rfl, -⟩ := goesOn
        exact (whole ⟨first, between, by simp [spelled]⟩).elim
  rcases List.append_eq_append_iff.mp same with
    ⟨between, spelled, goesOn⟩ | ⟨between, spelled, goesOn⟩
  · exact ends between spelled wholeOther goesOn
  · obtain ⟨rfl, rfl⟩ := ends between spelled whole goesOn
    exact ⟨rfl, rfl⟩

theorem CallsAfter.of_unbroken (calls : CallsAfter Unbroken cs) : CallsAfter (fun _ => True) cs :=
  calls.imp id fun ⟨before, comment, rest, blank, _, further⟩ =>
    ⟨before, comment, rest, blank, trivial, further⟩

theorem SkipsText.callsAfter (skips : SkipsText cs) : CallsAfter (fun _ => True) cs := by
  obtain ⟨before, comment, skipped, rest, blank, -, -, calls, rfl⟩ := skips
  exact .inr ⟨before, comment ++ '*' :: '/' :: skipped, rest, blank, trivial, calls, by simp⟩

theorem SkipsText.not_callsAfter (skips : SkipsText cs) : ¬CallsAfter Unbroken cs := by
  obtain ⟨before, comment, skipped, rest, blank, whole, refused, -, rfl⟩ := skips
  have opens := trimLeft_comment blank comment (skipped ++ '*' :: '/' :: rest)
  rintro (calls | ⟨beforeOther, other, more, blankOther, wholeOther, calls, spelled⟩)
  · exact calls.trimLeft_ne opens
  · rw [spelled, trimLeft_comment blankOther] at opens
    have same := (List.cons.inj (List.cons.inj opens).2).2
    obtain ⟨-, rfl⟩ := wholeOther.unique whole same
    exact refused calls

theorem skipsText_of_callsAfter (calls : CallsAfter (fun _ => True) cs)
    (refused : ¬CallsAfter Unbroken cs) : SkipsText cs := by
  rcases calls with calls | ⟨before, comment, rest, blank, -, calls, rfl⟩
  · exact (refused (.inl calls)).elim
  · rcases unbroken_or_exists comment with whole | ⟨first, skipped, whole, rfl⟩
    · exact (refused (.inr ⟨before, comment, rest, blank, whole, calls, rfl⟩)).elim
    · refine ⟨before, first, skipped, rest, blank, whole, fun early => ?_, calls, by simp⟩
      exact refused (.inr ⟨before, first, _, blank, whole, early, by simp⟩)

theorem tellsBundle_iff : TellsBundle content ↔ ¬SkipsText content.toList := by
  rw [TellsBundle, isBundle_iff_callsAfter]
  constructor
  · intro tells skips
    exact skips.not_callsAfter (tells.mp skips.callsAfter)
  · intro plain
    refine ⟨fun calls => ?_, CallsAfter.of_unbroken⟩
    by_contra refused
    exact plain (skipsText_of_callsAfter calls refused)

/-- A script is taken for a bundle exactly if it starts with a call, possibly after a comment that
ends anywhere. So only a text in which something is skipped between two ends of a comment is taken
for a bundle although it is none. What is taken for a bundle is dropped by the standard filter. -/
theorem bundles_dropped_iff (content : String) :
    (isBundle content = true ↔ CallsAfter (fun _ => True) content.toList) ∧
      (TellsBundle content ↔ ¬SkipsText content.toList) ∧
      ∀ exclusions role limit journal absolute,
        (Discovery.recordOf? ⟨exclusions, role, accepts limit, journal⟩ absolute content).isSome =
            true ↔
          isCandidate absolute = true ∧
            (family absolute = .script →
              isTooBig content limit = false ∧ isMinifiedName absolute = false ∧
                hasLongLines content standardLineLength = false ∧
                ¬CallsAfter (fun _ => True) content.toList) := by
  refine ⟨isBundle_iff_callsAfter, tellsBundle_iff, ?_⟩
  intro exclusions role limit journal absolute
  rw [Discovery.isSome_recordOf?_iff, ← isBundle_iff_callsAfter]
  simp only [accepts, Bool.and_eq_true, Bool.not_eq_true', Bool.not_eq_true, and_assoc]

/-- A script with a statement between two comments. -/
def statementFirst : String := "/* a */ var x; /* b */ !function()\x7b\x7d();\n"

/-- The statement is skipped as if it stood in the comment, and the script is dropped. -/
theorem statementFirst_not_tellsBundle :
    isBundle statementFirst = true ∧ ¬CallsAfter Unbroken statementFirst.toList ∧
      ¬TellsBundle statementFirst ∧
      Discovery.recordOf? ⟨.forProject none none, .main, accepts standardSizeLimit, none⟩
        "/w/p/a.js" statementFirst = none := by
  have skips : SkipsText statementFirst.toList := by
    refine ⟨[], " a ".toList, " var x; /* b ".toList, " !function()\x7b\x7d();\n".toList, ?_⟩
    simp only [← startsWithBundle_iff]
    exact ⟨by simp [AreBlank], by decide, by decide, by decide, rfl⟩
  refine ⟨isBundle_iff_callsAfter.mpr skips.callsAfter, skips.not_callsAfter,
    fun tells => tellsBundle_iff.mp tells skips, ?_⟩
  decide +kernel

end Baseline.Source
