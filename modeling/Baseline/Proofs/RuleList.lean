import Baseline.Proofs.Except
import Baseline.Proofs.Text.Utf8
import Baseline.RuleList

/-!
# Rule lists that are loaded

A rule list is loaded exactly of a file whose bytes spell the JSON text of a list of objects with
text keys, and its rules are those that the objects describe, in order. Any other file fails by the
first thing that is wrong with it, which is mostly reported as an error of the configuration.
-/

namespace Baseline.RuleList

open FileSystem

variable {fs : FileSystem} {path : Path} {text : String} {entry value : Payload}
  {entries items : List Payload} {rule : RuleSetting} {rules : List RuleSetting} {error : Error}

/-! ## Entries -/

/-- The items that a field of an entry has: those of a list, none if it is null or not there, and one
if it is anything else. -/
inductive ReadsList : Option Payload → List Payload → Prop where
  | absent : ReadsList none []
  | null : ReadsList (some .null) []
  | list (items : List Payload) : ReadsList (some (.list items)) items
  | item {value : Payload} : value ≠ .null → (∀ items, value ≠ .list items) →
      ReadsList (some value) [value]

/-- The rule that an entry describes. -/
inductive Describes : Payload → RuleSetting → Prop where
  | rule {fields : List (String × Payload)} {key : String} {configurations : List Payload} :
      Payload.field? fields "key" = some (.text key) →
      ReadsList (Payload.field? fields "configurations") configurations →
      Describes (.map fields) {
        key
        configurations
        fileTypes := textsOf (Payload.firstField fields ["fileTypeTarget", "file_type_target"]) }

/-- An entry is an object whose key is a text. -/
def HasKey (entry : Payload) : Prop :=
  ∃ fields key, entry = .map fields ∧ Payload.field? fields "key" = some (.text key)

theorem readsList_iff {fields : List (String × Payload)} {key : String} :
    ReadsList (Payload.field? fields key) items ↔
      listOf (Payload.firstField fields [key]) = items := by
  rw [Payload.firstField, List.findSome?_singleton]
  generalize Payload.field? fields key = found
  constructor
  · intro reads
    cases reads with
    | absent | null | list => rfl
    | @item value filled unlisted =>
        cases value with
        | null => exact (filled rfl).elim
        | list items => exact (unlisted items rfl).elim
        | _ => rfl
  · rintro rfl
    cases found with
    | none => exact .absent
    | some value =>
        cases value with
        | null => exact .null
        | list items => exact .list items
        | _ => exact .item nofun nofun

theorem ruleOf?_of_key {fields : List (String × Payload)} {key : String}
    (named : Payload.field? fields "key" = some (.text key)) :
    ruleOf? (.map fields) = some {
      key
      configurations := listOf (Payload.firstField fields ["configurations"])
      fileTypes := textsOf (Payload.firstField fields ["fileTypeTarget", "file_type_target"]) } := by
  rw [ruleOf?, named]

theorem ruleOf?_eq_some_iff : ruleOf? entry = some rule ↔ Describes entry rule := by
  constructor
  · intro made
    unfold ruleOf? at made
    split at made
    · split at made
      · cases made
        exact .rule ‹_› (readsList_iff.mpr rfl)
      · contradiction
    · contradiction
  · intro describes
    cases describes with
    | rule named reads => rw [ruleOf?_of_key named, readsList_iff.mp reads]

theorem ruleOf?_eq_none_iff : ruleOf? entry = none ↔ ¬HasKey entry := by
  constructor
  · rintro none ⟨fields, key, rfl, named⟩
    rw [ruleOf?_of_key named] at none
    contradiction
  · intro keyless
    unfold ruleOf?
    split
    · split
      · exact (keyless ⟨_, _, rfl, ‹_›⟩).elim
      · rfl
    · rfl

/-- The rule of an entry, unless there is none. -/
def checkedRule (path : Path) (entry : Payload) : Except Error RuleSetting :=
  match ruleOf? entry with
  | none => .error (.invalid path entry)
  | some rule => .ok rule

theorem rulesOf_eq_mapM : rulesOf path entries = entries.mapM (checkedRule path) := by
  induction entries with
  | nil => rfl
  | cons entry entries induction =>
      rw [rulesOf, List.mapM_cons, checkedRule]
      cases ruleOf? entry with
      | none => rfl
      | some rule =>
          rw [Except.ok_bind, induction]
          rfl

theorem checkedRule_eq_ok_iff : checkedRule path entry = .ok rule ↔ Describes entry rule := by
  rw [checkedRule, ← ruleOf?_eq_some_iff]
  cases ruleOf? entry <;> simp

theorem checkedRule_eq_error_iff :
    checkedRule path entry = .error error ↔ ¬HasKey entry ∧ error = .invalid path entry := by
  rw [checkedRule, ← ruleOf?_eq_none_iff]
  cases ruleOf? entry <;> simp [eq_comm]

theorem hasKey_of_checkedRule : (∃ rule, checkedRule path entry = .ok rule) ↔ HasKey entry := by
  rw [← not_iff_not, ← ruleOf?_eq_none_iff, checkedRule]
  cases ruleOf? entry <;> simp

theorem rulesOf_eq_ok_iff :
    rulesOf path entries = .ok rules ↔ List.Forall₂ Describes entries rules := by
  rw [rulesOf_eq_mapM, Except.mapM_eq_ok_iff]
  exact ⟨.imp fun _ _ => checkedRule_eq_ok_iff.mp, .imp fun _ _ => checkedRule_eq_ok_iff.mpr⟩

/-- The first entry without a key is named. -/
theorem rulesOf_eq_error_iff :
    rulesOf path entries = .error error ↔
      ∃ before entry after, entries = before ++ entry :: after ∧ (∀ other ∈ before, HasKey other) ∧
        ¬HasKey entry ∧ error = .invalid path entry := by
  rw [rulesOf_eq_mapM, Except.mapM_eq_error_iff]
  simp only [checkedRule_eq_error_iff, hasKey_of_checkedRule]

/-! ## Files -/

/-- The text of the file that a path leads to: that which its bytes spell, with its line ends
unified. -/
def HoldsText (fs : FileSystem) (path : Path) (text : String) : Prop :=
  ∃ cs, fs.read path = .ok (Text.Utf8.encode cs) ∧ text = String.ofList (Text.unifyNewlines cs)

/-- Why no rule list is loaded. -/
inductive Fails (fs : FileSystem) (path : Path) : Error → Prop where
  | badPath : hasNull path = true → Fails fs path (.badPath .nullCharacter)
  | unreadable {error : FileError} : hasNull path = false → fs.read path = .error error →
      Fails fs path (.unreadable path error)
  | encoding {bytes : List UInt8} {malformed : Text.Utf8.Malformed} : fs.read path = .ok bytes →
      Text.Utf8.decode bytes = .error malformed → Fails fs path (.encoding malformed)
  | notJson {text : String} {problem : Json.Problem} {position : Nat} : HoldsText fs path text →
      Json.read text = .error (.malformed problem position) →
      Fails fs path (.notJson path problem position text)
  | unmade {text : String} {error : Json.Error} : HoldsText fs path text →
      Json.read text = .error error → (∀ problem position, error ≠ .malformed problem position) →
      Fails fs path (.json error text)
  | notList {text : String} {value : Payload} : HoldsText fs path text →
      Json.read text = .ok value → (∀ entries, value ≠ .list entries) → Fails fs path (.notList path)
  | invalid {text : String} {before after : List Payload} {entry : Payload} :
      HoldsText fs path text → Json.read text = .ok (.list (before ++ entry :: after)) →
      (∀ other ∈ before, HasKey other) → ¬HasKey entry → Fails fs path (.invalid path entry)

theorem read_of_hasNull (null : hasNull path = true) :
    fs.read path = .error .nullCharacter := by
  rw [FileSystem.read, if_pos null]

theorem read_ne_nullCharacter (clean : hasNull path = false) :
    fs.read path ≠ .error .nullCharacter := by
  rw [FileSystem.read, clean, if_neg Bool.false_ne_true]
  split <;> simp

theorem load_of_hasNull (null : hasNull path = true) :
    load fs path = .error (.badPath .nullCharacter) := by
  rw [load, readText, read_of_hasNull null]

theorem load_of_unreadable {cause : FileError} (clean : hasNull path = false)
    (unreadable : fs.read path = .error cause) :
    load fs path = .error (.unreadable path cause) := by
  have other : cause ≠ .nullCharacter := fun null => read_ne_nullCharacter clean (null ▸ unreadable)
  rw [load, readText, unreadable]
  simp

theorem load_of_malformed {bytes : List UInt8} {malformed : Text.Utf8.Malformed}
    (reads : fs.read path = .ok bytes) (decodes : Text.Utf8.decode bytes = .error malformed) :
    load fs path = .error (.encoding malformed) := by
  simp only [load, readText, reads, textOf, decodes, Except.map, Except.mapError]

theorem load_of_holdsText (holds : HoldsText fs path text) : load fs path = parse path text := by
  obtain ⟨cs, reads, rfl⟩ := holds
  have decodes := Text.Utf8.decode_eq_ok_iff.mpr (rfl : Text.Utf8.encode cs = Text.Utf8.encode cs)
  simp only [load, readText, reads, textOf, decodes, Except.map, Except.mapError]

/-- A file has a text, or it is not loaded because it has none. -/
theorem holdsText_or_fails (fs : FileSystem) (path : Path) :
    (∃ text, HoldsText fs path text) ∨
      ∃ error, Fails fs path error ∧ load fs path = .error error := by
  cases null : hasNull path with
  | true => exact .inr ⟨_, .badPath null, load_of_hasNull null⟩
  | false =>
      cases reads : fs.read path with
      | error cause => exact .inr ⟨_, .unreadable null reads, load_of_unreadable null reads⟩
      | ok bytes =>
          cases decodes : Text.Utf8.decode bytes with
          | error malformed => exact .inr ⟨_, .encoding reads decodes, load_of_malformed reads decodes⟩
          | ok cs =>
              obtain rfl := Text.Utf8.decode_eq_ok_iff.mp decodes
              exact .inl ⟨_, cs, reads, rfl⟩

theorem load_eq_ok_iff :
    load fs path = .ok rules ↔
      ∃ text entries, HoldsText fs path text ∧ Json.read text = .ok (.list entries) ∧
        List.Forall₂ Describes entries rules := by
  constructor
  · intro loaded
    rcases holdsText_or_fails fs path with ⟨text, holds⟩ | ⟨error, -, fails⟩
    · rw [load_of_holdsText holds, parse] at loaded
      split at loaded
      · contradiction
      · contradiction
      · rename_i entries denotes
        exact ⟨text, entries, holds, denotes, rulesOf_eq_ok_iff.mp loaded⟩
      · contradiction
    · rw [fails] at loaded
      contradiction
  · rintro ⟨text, entries, holds, denotes, described⟩
    rw [load_of_holdsText holds, parse, denotes]
    exact rulesOf_eq_ok_iff.mpr described

theorem load_eq_error_iff : load fs path = .error error ↔ Fails fs path error := by
  constructor
  · intro failed
    rcases holdsText_or_fails fs path with ⟨text, holds⟩ | ⟨other, fails, failedSo⟩
    · rw [load_of_holdsText holds, parse] at failed
      split at failed
      · cases failed
        exact .notJson holds ‹_›
      · rename_i other unmalformed denotes
        cases failed
        exact .unmade holds denotes fun problem position same => unmalformed problem position same
      · rename_i entries denotes
        obtain ⟨before, entry, after, rfl, keyed, keyless, rfl⟩ := rulesOf_eq_error_iff.mp failed
        exact .invalid holds denotes keyed keyless
      · rename_i value unlisted denotes
        cases failed
        exact .notList holds denotes unlisted
    · cases failedSo.symm.trans failed
      exact fails
  · intro fails
    cases fails with
    | badPath null => exact load_of_hasNull null
    | unreadable clean unreadable => exact load_of_unreadable clean unreadable
    | encoding reads decodes => exact load_of_malformed reads decodes
    | notJson holds malformed => rw [load_of_holdsText holds, parse, malformed]
    | @unmade text cause holds unmade unmalformed =>
        rw [load_of_holdsText holds, parse, unmade]
        cases cause with
        | malformed problem position => exact (unmalformed problem position rfl).elim
        | number | tooDeep => rfl
    | @notList text value holds denotes unlisted =>
        rw [load_of_holdsText holds, parse, denotes]
        cases value with
        | list entries => exact (unlisted entries rfl).elim
        | _ => rfl
    | invalid holds denotes keyed keyless =>
        rw [load_of_holdsText holds, parse, denotes]
        exact rulesOf_eq_error_iff.mpr ⟨_, _, _, rfl, keyed, keyless, rfl⟩

/-! ## Failures that are reported -/

/-- Rules are loaded exactly of the files that they should be loaded of, and every failure is reported
as an error of the configuration. -/
structure TellsRules (fs : FileSystem) (path : Path) : Prop where
  loads : ∀ rules, load fs path = .ok rules ↔
    ∃ text entries, HoldsText fs path text ∧ Json.read text = .ok (.list entries) ∧
      List.Forall₂ Describes entries rules
  reports : ∀ error, load fs path = .error error → error.isReported = true

/-- A path has no null character, a file that can be read spells a text, and that is not given up for
a number that cannot be read or for its depth. -/
structure IsLegible (fs : FileSystem) (path : Path) : Prop where
  clean : hasNull path = false
  spelled : ∀ bytes, fs.read path = .ok bytes → ∃ cs, bytes = Text.Utf8.encode cs
  made : ∀ text error, HoldsText fs path text → Json.read text = .error error →
    ∃ problem position, error = .malformed problem position

theorem HoldsText.unique {other : String} (one : HoldsText fs path text)
    (two : HoldsText fs path other) : text = other := by
  obtain ⟨cs, reads, rfl⟩ := one
  obtain ⟨ds, readsToo, rfl⟩ := two
  have same : Text.Utf8.encode ds = Text.Utf8.encode cs :=
    Except.ok.inj (readsToo.symm.trans reads)
  rw [Except.ok.inj ((Text.Utf8.decode_eq_ok_iff.mpr same.symm).symm.trans
    (Text.Utf8.decode_eq_ok_iff.mpr rfl))]

theorem HoldsText.isLegible (holds : HoldsText fs path text)
    (made : ∀ error, Json.read text = .error error →
      ∃ problem position, error = .malformed problem position) : IsLegible fs path where
  clean := by
    obtain ⟨cs, reads, -⟩ := holds
    by_contra null
    cases (read_of_hasNull (eq_true_of_ne_false null)).symm.trans reads
  spelled := by
    obtain ⟨cs, reads, -⟩ := holds
    intro bytes readsToo
    exact ⟨cs, Except.ok.inj (readsToo.symm.trans reads)⟩
  made := by
    intro other error holdsToo fails
    rw [holdsToo.unique holds] at fails
    exact made error fails

/-- A failure is reported exactly if the file is legible. -/
theorem Fails.isReported_iff (fails : Fails fs path error) :
    error.isReported = true ↔ IsLegible fs path := by
  cases fails with
  | badPath null =>
      refine ⟨nofun, fun legible => ?_⟩
      cases null.symm.trans legible.clean
  | unreadable clean unreadable =>
      refine ⟨fun _ => ⟨clean, ?_, ?_⟩, fun _ => rfl⟩
      · intro bytes reads
        cases unreadable.symm.trans reads
      · rintro text error ⟨cs, reads, -⟩
        cases unreadable.symm.trans reads
  | encoding reads decodes =>
      refine ⟨nofun, fun legible => ?_⟩
      obtain ⟨cs, spelled⟩ := legible.spelled _ reads
      cases decodes.symm.trans (Text.Utf8.decode_eq_ok_iff.mpr spelled)
  | notJson holds malformed =>
      refine ⟨fun _ => holds.isLegible fun error fails => ?_, fun _ => rfl⟩
      exact ⟨_, _, Except.error.inj (fails.symm.trans malformed)⟩
  | unmade holds unmade unmalformed =>
      refine ⟨nofun, fun legible => ?_⟩
      obtain ⟨problem, position, same⟩ := legible.made _ _ holds unmade
      exact (unmalformed problem position same).elim
  | notList holds denotes | invalid holds denotes =>
      refine ⟨fun _ => holds.isLegible fun error fails => ?_, fun _ => rfl⟩
      cases fails.symm.trans denotes

/-- Rules are loaded exactly of a readable file whose bytes spell the JSON text of a list of objects
with text keys, and any other file fails by what is wrong with it first. That is always reported as an
error of the configuration exactly if the file is legible. -/
theorem tellsRules_iff (fs : FileSystem) (path : Path) :
    (∀ rules, load fs path = .ok rules ↔
      ∃ text entries, HoldsText fs path text ∧ Json.read text = .ok (.list entries) ∧
        List.Forall₂ Describes entries rules) ∧
    (∀ error, load fs path = .error error ↔ Fails fs path error) ∧
    (TellsRules fs path ↔ IsLegible fs path) := by
  refine ⟨fun rules => load_eq_ok_iff, fun error => load_eq_error_iff, ?_⟩
  constructor
  · intro tells
    cases loaded : load fs path with
    | error error => exact (load_eq_error_iff.mp loaded).isReported_iff.mp (tells.reports error loaded)
    | ok rules =>
        obtain ⟨text, entries, holds, denotes, -⟩ := load_eq_ok_iff.mp loaded
        refine holds.isLegible fun error fails => ?_
        cases fails.symm.trans denotes
  · intro legible
    refine ⟨fun rules => load_eq_ok_iff, fun error fails => ?_⟩
    exact (load_eq_error_iff.mp fails).isReported_iff.mpr legible

/-- A rule list whose only byte begins no character. -/
def strayByte : FileSystem :=
  { entries := [(["w"], .directory false), (["w", "rules.json"], .file [0xff] false)]
    current := ["w"]
    homes := [] }

/-- Bytes that spell no text make the loading of rules fail without a report. -/
theorem strayByte_not_tellsRules :
    load strayByte (Path.parse "rules.json") = .error (.encoding ⟨0, 1, 0xff, .invalidStart⟩) ∧
      Error.isReported (.encoding ⟨0, 1, 0xff, .invalidStart⟩) = false ∧
      ¬TellsRules strayByte (Path.parse "rules.json") := by
  have reads : strayByte.read (Path.parse "rules.json") = .ok [0xff] := by decide +kernel
  have decodes : Text.Utf8.decode [0xff] = .error ⟨0, 1, 0xff, .invalidStart⟩ := by decide
  have fails := load_of_malformed reads decodes
  refine ⟨fails, rfl, fun tells => ?_⟩
  cases tells.reports _ fails

end Baseline.RuleList
