import Baseline.Proofs.Text.Blank
import Baseline.Source.Classification
import Mathlib.Data.List.Chain
import Mathlib.Data.List.Infix

/-!
# What counts as a typed script tag

A page component is typed script exactly if it holds the text of a typed script tag. A loose
spelling of one is enough: the name of the tag may end, and that of the attribute start, at the edge
of any word, as in `script-x` and `data-lang`, and the quotes around the value need not be of one
kind.
-/

namespace Baseline.Source

open Text Text.Property

variable {word cs rest : List Char} {c previous : Char} {path content : String}

/-! ## The pieces of an attribute -/

/-- A text is a word in any case. -/
def Spells (word cs : List Char) : Prop :=
  List.Forall₂ (fun letter c => isFormOf letter c = true) word cs

/-- A character is a quote, of either kind. -/
def IsQuote (c : Char) : Prop := c = '"' ∨ c = '\''

theorem IsQuote.isBlank_eq_false (quote : IsQuote c) : isBlank c = false := by
  rcases quote with rfl | rfl <;> decide

theorem afterWord?_eq_some_iff :
    afterWord? word cs = some rest ↔ ∃ spelled, Spells word spelled ∧ cs = spelled ++ rest := by
  induction word generalizing cs with
  | nil =>
      simp only [afterWord?, Option.some.injEq, Spells, List.forall₂_nil_left_iff]
      exact ⟨fun same => ⟨[], rfl, same⟩, fun ⟨_, rfl, same⟩ => same⟩
  | cons letter word induction =>
      constructor
      · intro found
        cases cs with
        | nil => simp [afterWord?] at found
        | cons c cs =>
            rw [afterWord?] at found
            split at found
            · rename_i form
              obtain ⟨spelled, spells, rfl⟩ := induction.mp found
              exact ⟨c :: spelled, .cons form spells, rfl⟩
            · contradiction
      · rintro ⟨_, ⟨⟩ | ⟨form, spells⟩, rfl⟩
        rw [List.cons_append, afterWord?, if_pos form]
        exact induction.mpr ⟨_, spells, rfl⟩

theorem afterQuote?_eq_some_iff :
    afterQuote? cs = some rest ↔ ∃ quote, IsQuote quote ∧ cs = quote :: rest := by
  cases cs with
  | nil => simp [afterQuote?]
  | cons c cs =>
      simp only [afterQuote?, Bool.or_eq_true, beq_iff_eq, List.cons.injEq, IsQuote]
      split
      · rename_i quote
        simp [quote]
      · rename_i other
        simp only [reduceCtorEq, false_iff]
        rintro ⟨_, quote, rfl, -⟩
        exact other quote

theorem afterEquals?_eq_some_cons_iff (other : isBlank c = false) :
    afterEquals? cs = some (c :: rest) ↔
      ∃ before after, AreBlank before ∧ AreBlank after ∧
        cs = before ++ '=' :: after ++ c :: rest := by
  constructor
  · intro found
    rw [afterEquals?] at found
    split at found
    · rename_i more trimmed
      obtain ⟨before, blankBefore, rfl⟩ := (trimLeft_eq_cons_iff (by decide)).mp trimmed
      obtain ⟨after, blankAfter, rfl⟩ := (trimLeft_eq_cons_iff other).mp (Option.some.inj found)
      exact ⟨before, after, blankBefore, blankAfter, by simp⟩
    · contradiction
  · rintro ⟨before, after, blankBefore, blankAfter, rfl⟩
    have trimmed : (before ++ '=' :: after ++ c :: rest).dropWhile isBlank =
        '=' :: (after ++ c :: rest) :=
      (trimLeft_eq_cons_iff (by decide)).mpr ⟨before, blankBefore, by simp⟩
    rw [afterEquals?, trimmed]
    exact congrArg some ((trimLeft_eq_cons_iff other).mpr ⟨after, blankAfter, rfl⟩)

/-- A `lang` attribute of value `ts` or `tsx`, piece by piece. -/
structure TypedLang where
  name : List Char
  before : List Char
  after : List Char
  opening : Char
  value : List Char
  closing : Char
  name_spells : Spells "lang".toList name
  before_areBlank : AreBlank before
  after_areBlank : AreBlank after
  opening_isQuote : IsQuote opening
  value_spells : Spells "ts".toList value ∨ Spells "tsx".toList value
  closing_isQuote : IsQuote closing

/-- The text of such an attribute: blanks around its equals sign, quotes around its value. -/
def TypedLang.text (lang : TypedLang) : List Char :=
  lang.name ++ lang.before ++ '=' :: lang.after ++ lang.opening :: lang.value ++ [lang.closing]

theorem TypedLang.exists_cons (lang : TypedLang) :
    ∃ letter more, isFormOf 'l' letter = true ∧ lang.text = letter :: more := by
  obtain ⟨letters, word⟩ : ∃ letters, "lang".toList = 'l' :: letters := ⟨_, rfl⟩
  have spells := lang.name_spells
  rw [word, Spells, List.forall₂_cons_left_iff] at spells
  obtain ⟨letter, name, form, -, spelled⟩ := spells
  exact ⟨letter, _, form, by rw [TypedLang.text, spelled]; rfl⟩

/-! ## Tags -/

/-- A script tag up to the end of a typed `lang` attribute; what stands between the names of the tag
and of the attribute does not close the tag. -/
structure TypedTag where
  name : List Char
  gap : List Char
  lang : TypedLang
  name_spells : Spells "script".toList name
  gap_open : '>' ∉ gap

namespace TypedTag

/-- The text of such a tag. -/
def text (tag : TypedTag) : List Char := '<' :: tag.name ++ tag.gap ++ tag.lang.text

/-- A text holds the text of the tag. -/
def StandsIn (tag : TypedTag) (content : String) : Prop := tag.text <:+: content.toList

/-- The first and the last character of a text are of some kind. -/
def Bounded (holds : Char → Bool) (gap : List Char) : Prop :=
  gap.head?.any holds = true ∧ gap.getLast?.any holds = true

theorem bounded_cons_iff {holds : Char → Bool} {gap : List Char} :
    Bounded holds (c :: gap) ↔ holds c = true ∧ holds (gap.getLastD c) = true := by
  simp [Bounded, List.getLast?_cons]

theorem Bounded.exists_cons {holds : Char → Bool} {gap : List Char} (bounded : Bounded holds gap) :
    ∃ first more, gap = first :: more := by
  cases gap with
  | nil => simp [Bounded] at bounded
  | cons first more => exact ⟨first, more, rfl⟩

/-- The name of the tag ends, and that of the attribute starts, at the edge of a word. -/
def IsLoose (tag : TypedTag) : Prop := Bounded (fun c => !isWord c) tag.gap

/-- Blanks keep the names apart from all else, and the two quotes are equal. -/
def IsProper (tag : TypedTag) : Prop :=
  Bounded isBlank tag.gap ∧ tag.lang.opening = tag.lang.closing

theorem IsProper.isLoose {tag : TypedTag} (proper : tag.IsProper) : tag.IsLoose := by
  have noWord : ∀ c, isBlank c = true → (!isWord c) = true := fun c blank => by
    rw [isWord_of_isBlank blank, Bool.not_false]
  obtain ⟨⟨first, last⟩, -⟩ := proper
  simp only [Option.any_eq_true] at first last
  obtain ⟨c, starts, blank⟩ := first
  obtain ⟨d, ends, blankLast⟩ := last
  simp only [IsLoose, Bounded, starts, ends, Option.any_some]
  exact ⟨noWord c blank, noWord d blankLast⟩

end TypedTag

/-! ## The search for a tag -/

/-- What follows the opening quote of a `lang` attribute at the start of a text. -/
def afterOpening? (cs : List Char) : Option (List Char) :=
  ((afterWord? "lang".toList cs).bind afterEquals?).bind afterQuote?

theorem afterOpening?_eq_some_iff :
    afterOpening? cs = some rest ↔
      ∃ name before after opening, Spells "lang".toList name ∧ AreBlank before ∧ AreBlank after ∧
        IsQuote opening ∧ cs = name ++ before ++ '=' :: after ++ opening :: rest := by
  simp only [afterOpening?, Option.bind_eq_some_iff, afterWord?_eq_some_iff,
    afterQuote?_eq_some_iff]
  constructor
  · rintro ⟨_, ⟨_, ⟨name, spells, rfl⟩, found⟩, opening, quote, rfl⟩
    obtain ⟨before, after, blankBefore, blankAfter, rfl⟩ :=
      (afterEquals?_eq_some_cons_iff quote.isBlank_eq_false).mp found
    exact ⟨name, before, after, opening, spells, blankBefore, blankAfter, quote, by simp⟩
  · rintro ⟨name, before, after, opening, spells, blankBefore, blankAfter, quote, rfl⟩
    refine ⟨_, ⟨before ++ '=' :: after ++ opening :: rest, ⟨name, spells, by simp⟩, ?_⟩,
      opening, quote, rfl⟩
    exact (afterEquals?_eq_some_cons_iff quote.isBlank_eq_false).mpr
      ⟨before, after, blankBefore, blankAfter, rfl⟩

theorem isSome_afterWord?_bind_afterQuote?_iff :
    ((afterWord? word cs).bind afterQuote?).isSome = true ↔
      ∃ value closing, Spells word value ∧ IsQuote closing ∧ value ++ [closing] <+: cs := by
  simp only [Option.isSome_iff_exists, Option.bind_eq_some_iff, afterWord?_eq_some_iff,
    afterQuote?_eq_some_iff]
  constructor
  · rintro ⟨rest, _, ⟨value, spells, rfl⟩, closing, quote, rfl⟩
    exact ⟨value, closing, spells, quote, rest, by simp⟩
  · rintro ⟨value, closing, spells, quote, rest, rfl⟩
    exact ⟨rest, _, ⟨value, spells, by simp⟩, closing, quote, rfl⟩

theorem afterWord?_append (first second cs : List Char) :
    afterWord? (first ++ second) cs = (afterWord? first cs).bind (afterWord? second) := by
  induction first generalizing cs with
  | nil => rfl
  | cons letter first induction =>
      cases cs with
      | nil => rfl
      | cons c cs =>
          simp only [List.cons_append, afterWord?]
          split
          · exact induction cs
          · rfl

theorem startsWithTypedLang_eq (cs : List Char) :
    startsWithTypedLang cs = (afterOpening? cs).any fun rest =>
      ((afterWord? "ts".toList rest).bind afterQuote?).isSome ||
        ((afterWord? "tsx".toList rest).bind afterQuote?).isSome := by
  -- the optional `x` is looked for after `ts`, which gives what looking for `tsx` gives
  have longer : "tsx".toList = "ts".toList ++ "x".toList := rfl
  rw [startsWithTypedLang, ← afterOpening?, longer]
  cases afterOpening? cs with
  | none => rfl
  | some rest =>
      simp only [Option.bind_some, Option.any_some, afterWord?_append]
      cases afterWord? "ts".toList rest <;> rfl

theorem startsWithTypedLang_iff :
    startsWithTypedLang cs = true ↔ ∃ lang : TypedLang, lang.text <+: cs := by
  simp only [startsWithTypedLang_eq, Option.any_eq_true, afterOpening?_eq_some_iff, Bool.or_eq_true,
    isSome_afterWord?_bind_afterQuote?_iff]
  constructor
  · rintro ⟨_, ⟨name, before, after, opening, spells, blankBefore, blankAfter, quote, rfl⟩, typed⟩
    obtain ⟨value, closing, spellsValue, quoteAfter, rest, rfl⟩ :
        ∃ value closing, (Spells "ts".toList value ∨ Spells "tsx".toList value) ∧ IsQuote closing ∧
          value ++ [closing] <+: _ := by
      rcases typed with ⟨value, closing, short, further⟩ | ⟨value, closing, long, further⟩
      · exact ⟨value, closing, .inl short, further⟩
      · exact ⟨value, closing, .inr long, further⟩
    exact ⟨⟨name, before, after, opening, value, closing, spells, blankBefore, blankAfter, quote,
      spellsValue, quoteAfter⟩, rest, by simp [TypedLang.text]⟩
  · rintro ⟨lang, rest, rfl⟩
    refine ⟨lang.value ++ lang.closing :: rest, ⟨lang.name, lang.before, lang.after, lang.opening,
      lang.name_spells, lang.before_areBlank, lang.after_areBlank, lang.opening_isQuote,
      by simp [TypedLang.text]⟩, ?_⟩
    refine lang.value_spells.imp (fun short => ?_) fun long => ?_
    · exact ⟨_, _, short, lang.closing_isQuote, rest, by simp⟩
    · exact ⟨_, _, long, lang.closing_isQuote, rest, by simp⟩

/-- An attribute is looked for at every edge of a word, until a bracket closes the tag. -/
theorem hasTypedLang_iff :
    hasTypedLang previous cs = true ↔
      ∃ gap, ∃ lang : TypedLang, '>' ∉ gap ∧ isWord (gap.getLastD previous) = false ∧
        gap ++ lang.text <+: cs := by
  induction cs generalizing previous with
  | nil =>
      simp [hasTypedLang, TypedLang.text]
  | cons c cs induction =>
      rw [hasTypedLang, Bool.or_eq_true, Bool.and_eq_true, Bool.and_eq_true, Bool.not_eq_true',
        bne_iff_ne, startsWithTypedLang_iff, induction]
      constructor
      · rintro (⟨edge, lang, starts⟩ | ⟨inside, gap, lang, open_, edge, starts⟩)
        · exact ⟨[], lang, by simp, edge, starts⟩
        · exact ⟨c :: gap, lang, by simp [open_, inside.symm], by rwa [List.getLastD_cons],
            List.cons_prefix_cons.mpr ⟨rfl, starts⟩⟩
      · rintro ⟨gap, lang, open_, edge, starts⟩
        cases gap with
        | nil => exact .inl ⟨edge, lang, starts⟩
        | cons d gap =>
            rw [List.cons_append, List.cons_prefix_cons] at starts
            obtain ⟨rfl, starts⟩ := starts
            simp only [List.mem_cons, not_or] at open_
            rw [List.getLastD_cons] at edge
            exact .inr ⟨Ne.symm open_.1, gap, lang, open_.2, edge, starts⟩

theorem startsWithTypedScript_iff :
    startsWithTypedScript cs = true ↔ ∃ tag : TypedTag, tag.IsLoose ∧ tag.text <+: cs := by
  constructor
  · intro found
    unfold startsWithTypedScript at found
    split at found
    · rename_i rest
      split at found
      · rename_i c attributes named
        obtain ⟨name, spells, rfl⟩ := afterWord?_eq_some_iff.mp named
        obtain ⟨outside, typed⟩ := (Bool.and_eq_true _ _).mp found
        obtain ⟨gap, lang, open_, edge, starts⟩ := hasTypedLang_iff.mp typed
        -- the gap is not empty: the attribute would start within a word, right after the `t`
        cases gap with
        | nil => simp [isWord] at edge
        | cons first gap =>
            obtain ⟨more, spelled⟩ := starts
            simp only [List.cons_append, List.cons.injEq] at spelled
            obtain ⟨rfl, rfl⟩ := spelled
            rw [List.getLastD_cons] at edge
            exact ⟨⟨name, first :: gap, lang, spells, open_⟩,
              TypedTag.bounded_cons_iff.mpr ⟨outside, by simpa using edge⟩,
              more, by simp [TypedTag.text]⟩
      · contradiction
    · contradiction
  · rintro ⟨⟨name, gap, lang, spells, open_⟩, loose, more, rfl⟩
    obtain ⟨first, gap, rfl⟩ := TypedTag.Bounded.exists_cons loose
    obtain ⟨outside, edge⟩ := TypedTag.bounded_cons_iff.mp loose
    have named : afterWord? "script".toList (name ++ (first :: gap ++ lang.text ++ more)) =
        some (first :: (gap ++ lang.text ++ more)) :=
      afterWord?_eq_some_iff.mpr ⟨name, spells, by simp⟩
    rw [Bool.not_eq_true', ← List.getLastD_cons (b := first) (a := 't')] at edge
    have typed : hasTypedLang 't' (first :: (gap ++ lang.text ++ more)) = true :=
      hasTypedLang_iff.mpr ⟨first :: gap, lang, open_, edge, more, by simp⟩
    rw [show TypedTag.text _ ++ more = '<' :: (name ++ (first :: gap ++ lang.text ++ more)) by
      simp [TypedTag.text]]
    simp only [startsWithTypedScript, named, outside, typed, Bool.and_self]

theorem hasTypedScript_iff :
    hasTypedScript cs = true ↔ ∃ tag : TypedTag, tag.IsLoose ∧ tag.text <:+: cs := by
  induction cs with
  | nil => simp [hasTypedScript, TypedTag.text]
  | cons c cs induction =>
      simp only [hasTypedScript, Bool.or_eq_true, startsWithTypedScript_iff, induction,
        List.infix_cons_iff, and_or_left, exists_or]

/-! ## The language of a page component -/

/-- A page component is typed script exactly if a proper tag stands in it. -/
def TellsProperTags (path content : String) : Prop :=
  language? path content = some .typescript ↔
    ∃ tag : TypedTag, tag.IsProper ∧ tag.StandsIn content

theorem language?_eq_of_component (component : extension path = ".vue") :
    language? path content =
      some (if hasTypedScript content.toList then .typescript else .javascript) := by
  have plain : isPlain path = true := by simp [isPlain, component, plainExtensions]
  have typed : isTyped path content = hasTypedScript content.toList := by
    rw [isTyped, component]
    simp [typedExtensions, mixedExtensions]
  rw [language?, typed, plain, if_pos rfl]
  split <;> rfl

theorem language?_eq_typescript_iff (component : extension path = ".vue") :
    language? path content = some .typescript ↔
      ∃ tag : TypedTag, tag.IsLoose ∧ tag.StandsIn content := by
  simp only [TypedTag.StandsIn, ← hasTypedScript_iff, language?_eq_of_component component]
  split <;> simp_all

/-- In a text with a proper tag a blank stands right before the name of the attribute. -/
theorem TypedTag.IsProper.exists_infix {tag : TypedTag} (proper : tag.IsProper)
    (stands : tag.StandsIn content) :
    ∃ blank letter, isBlank blank = true ∧ isFormOf 'l' letter = true ∧
      [blank, letter] <:+: content.toList := by
  obtain ⟨⟨-, last⟩, -⟩ := proper
  obtain ⟨blank, ends, isBlank⟩ := (Option.any_eq_true _ _).mp last
  obtain ⟨gap, spelledGap⟩ := List.getLast?_eq_some_iff.mp ends
  obtain ⟨letter, more, form, spelledLang⟩ := tag.lang.exists_cons
  refine ⟨blank, letter, isBlank, form, List.IsInfix.trans ?_ stands⟩
  exact ⟨'<' :: tag.name ++ gap, more, by simp [TypedTag.text, spelledGap, spelledLang]⟩

/-- A page component is typed script exactly if a loose tag stands in it, and plain script
otherwise. So a proper tag always makes it typed; and proper tags tell its language exactly if a
loose tag never stands in it without a proper one. -/
theorem language?_iff_tags (path content : String) (component : extension path = ".vue") :
    (language? path content = some .typescript ↔
        ∃ tag : TypedTag, tag.IsLoose ∧ tag.StandsIn content) ∧
      (language? path content = some .javascript ↔
        ∀ tag : TypedTag, tag.IsLoose → ¬tag.StandsIn content) ∧
      (∀ tag : TypedTag, tag.IsProper → tag.StandsIn content →
        language? path content = some .typescript) ∧
      (TellsProperTags path content ↔
        ∀ tag : TypedTag, tag.IsLoose → tag.StandsIn content →
          ∃ other : TypedTag, other.IsProper ∧ other.StandsIn content) := by
  have typed : language? path content = some .typescript ↔
      ∃ tag : TypedTag, tag.IsLoose ∧ tag.StandsIn content :=
    language?_eq_typescript_iff component
  have ofProper : ∀ tag : TypedTag, tag.IsProper → tag.StandsIn content →
      language? path content = some .typescript :=
    fun tag proper stands => typed.mpr ⟨tag, proper.isLoose, stands⟩
  have untyped : language? path content = some .javascript ↔
      ¬language? path content = some .typescript := by
    rw [language?_eq_of_component component]
    split <;> simp
  refine ⟨typed, ?_, ofProper, ?_⟩
  · rw [untyped, typed]
    simp only [not_exists, not_and]
  · constructor
    · intro tells tag loose stands
      exact tells.mp (typed.mpr ⟨tag, loose, stands⟩)
    · intro beside
      constructor
      · intro found
        obtain ⟨tag, loose, stands⟩ := typed.mp found
        exact beside tag loose stands
      · rintro ⟨tag, proper, stands⟩
        exact ofProper tag proper stands

/-- A proper tag, not spelled in lower case throughout. -/
def setupTag : TypedTag where
  name := "script".toList
  gap := " setup ".toList
  lang :=
    { name := "LANG".toList
      before := []
      after := []
      opening := '\''
      value := "tsx".toList
      closing := '\''
      name_spells := by unfold Spells; decide
      before_areBlank := by simp [AreBlank]
      after_areBlank := by simp [AreBlank]
      opening_isQuote := .inr rfl
      value_spells := .inr (by unfold Spells; decide)
      closing_isQuote := .inr rfl }
  name_spells := by unfold Spells; decide
  gap_open := by decide

/-- A page component that starts with this tag. -/
def setupComponent : String := "<script setup LANG='tsx'>\n"

theorem language?_iff_tags_setupComponent :
    extension "p/App.vue" = ".vue" ∧ setupTag.IsProper ∧ setupTag.StandsIn setupComponent ∧
      language? "p/App.vue" setupComponent = some .typescript ∧
      TellsProperTags "p/App.vue" setupComponent := by
  have component : extension "p/App.vue" = ".vue" := by decide +kernel
  have proper : setupTag.IsProper := ⟨by unfold TypedTag.Bounded; decide, rfl⟩
  have stands : setupTag.StandsIn setupComponent := ⟨[], ['>', '\n'], rfl⟩
  obtain ⟨-, -, ofProper, tells⟩ := language?_iff_tags "p/App.vue" setupComponent component
  exact ⟨component, proper, stands, ofProper _ proper stands,
    tells.mpr fun _ _ _ => ⟨setupTag, proper, stands⟩⟩

/-- A script tag whose attribute is none of the name `lang`. -/
def dataAttribute : String := "<script data-lang=\"ts\">\n"

/-- The end of the attribute's name is taken for a name, and the page component for typed script. -/
theorem dataAttribute_not_tellsProperTags :
    extension "p/a.vue" = ".vue" ∧ language? "p/a.vue" dataAttribute = some .typescript ∧
      (∀ tag : TypedTag, tag.IsProper → ¬tag.StandsIn dataAttribute) ∧
      ¬TellsProperTags "p/a.vue" dataAttribute := by
  have component : extension "p/a.vue" = ".vue" := by decide +kernel
  have typed : language? "p/a.vue" dataAttribute = some .typescript := by decide +kernel
  have apart : dataAttribute.toList.IsChain
      fun c d => ¬(isBlank c = true ∧ isFormOf 'l' d = true) := by decide
  have improper : ∀ tag : TypedTag, tag.IsProper → ¬tag.StandsIn dataAttribute := by
    intro tag proper stands
    obtain ⟨blank, letter, isBlank, form, inside⟩ := proper.exists_infix stands
    have pair := apart.infix inside
    simp [isBlank, form] at pair
  refine ⟨component, typed, improper, fun tells => ?_⟩
  obtain ⟨tag, proper, stands⟩ := tells.mp typed
  exact improper tag proper stands

end Baseline.Source
