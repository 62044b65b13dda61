/-!
# Wildcards within one name

In the pattern of a name `*` stands for any characters, `?` for one, and a bracket for one character
of a class. A class that starts with `!` is negated. The steps that read a class matter where its
ranges are odd: an empty range is taken out together with its two ends, and only then is a leading
`!` looked for.
-/

namespace Baseline.Glob

/-- What one place of a name pattern stands for. -/
inductive Wildcard where
  | literal (c : Char)
  | one
  | run
  | oneOf (negated : Bool) (ranges : List (Char × Char))
  | never
  deriving DecidableEq, Repr

/-- Whether a place that stands for one character accepts it. -/
def Wildcard.accepts (c : Char) : Wildcard → Bool
  | .literal d => c == d
  | .one => true
  | .run => true
  | .oneOf negated ranges => ranges.any (fun (low, high) => low ≤ c && c ≤ high) != negated
  | .never => false

/-- The text up to the next closing bracket, and what follows it. -/
def upToBracket : List Char → Option (List Char × List Char)
  | [] => none
  | ']' :: rest => some ([], rest)
  | c :: rest => (upToBracket rest).map fun (body, after) => (c :: body, after)

/-- The same, where a bracket at the very start does not close. -/
def upToLaterBracket : List Char → Option (List Char × List Char)
  | ']' :: rest => (upToBracket rest).map fun (body, after) => (']' :: body, after)
  | cs => upToBracket cs

/-- The body of a class after its opening bracket, and what follows the class. -/
def classBody? : List Char → Option (List Char × List Char)
  | '!' :: rest => (upToLaterBracket rest).map fun (body, after) => ('!' :: body, after)
  | cs => upToLaterBracket cs

/-- The text before the first hyphen after at least `least` characters, and the text after it. -/
def hyphenAfter (least : Nat) : List Char → Option (List Char × List Char)
  | [] => none
  | c :: rest =>
    match least with
    | 0 => if c == '-' then some ([], rest)
      else (hyphenAfter 0 rest).map fun (before, after) => (c :: before, after)
    | least + 1 => (hyphenAfter least rest).map fun (before, after) => (c :: before, after)

/-- The parts of a class between the hyphens that make ranges, at most `fuel` many. A hyphen at the
end belongs to the last part. -/
def chunks (least : Nat) : Nat → List Char → List (List Char)
  | 0, _ => []
  | fuel + 1, body =>
    match hyphenAfter least body with
    | none => [body]
    | some (chunk, []) => [chunk ++ ['-']]
    | some (chunk, rest) => chunk :: chunks 2 fuel rest

/-- Takes out the ranges that are empty because their first end is above their second one. -/
def withoutEmptyRanges : List (List Char) → List (List Char)
  | [] => []
  | chunk :: rest =>
    match withoutEmptyRanges rest with
    | [] => [chunk]
    | next :: more =>
      match chunk.getLast?, next.head? with
      | some low, some high =>
        if high < low then (chunk.dropLast ++ next.tail) :: more else chunk :: next :: more
      | _, _ => chunk :: next :: more

/-- The members of a class with `none` for a hyphen that makes a range. -/
def members : List (List Char) → List (Option Char)
  | [] => []
  | [chunk] => chunk.map some
  | chunk :: rest => chunk.map some ++ none :: members rest

/-- The ranges that the members make; a hyphen without a left end stands for itself. -/
def rangesOf : List (Option Char) → List (Char × Char)
  | [] => []
  | some low :: none :: some high :: rest => (low, high) :: rangesOf rest
  | some c :: rest => (c, c) :: rangesOf rest
  | none :: rest => ('-', '-') :: rangesOf rest

/-- The class with this body. -/
def classOf (body : List Char) : Wildcard :=
  let least := if body.head? == some '!' then 2 else 1
  match members (withoutEmptyRanges (chunks least (body.length + 1) body)) with
  | [] => .never
  | [some '!'] => .one
  | some '!' :: rest => .oneOf true (rangesOf rest)
  | all => .oneOf false (rangesOf all)

/-- The places of a pattern that is read from the end of a class on; `skip` characters of it belong
to a class that has been read. -/
def wildcardsFrom (skip : Nat) : List Char → List Wildcard
  | [] => []
  | c :: rest =>
    match skip with
    | skip + 1 => wildcardsFrom skip rest
    | 0 =>
      match c with
      | '*' =>
        match wildcardsFrom 0 rest with
        | .run :: more => .run :: more
        | more => .run :: more
      | '?' => .one :: wildcardsFrom 0 rest
      | '[' =>
        match classBody? rest with
        | none => .literal '[' :: wildcardsFrom 0 rest
        | some (body, _) => classOf body :: wildcardsFrom (body.length + 1) rest
      | c => .literal c :: wildcardsFrom 0 rest

/-- The places of a name pattern. -/
def wildcards (pattern : List Char) : List Wildcard :=
  wildcardsFrom 0 pattern

/-- Whether a list, or what is left of it after dropping some of its start, is accepted. -/
def anySuffix {α : Type} (accepts : List α → Bool) : List α → Bool
  | [] => accepts []
  | a :: rest => accepts (a :: rest) || anySuffix accepts rest

theorem anySuffix_iff {α : Type} {accepts : List α → Bool} {l : List α} :
    anySuffix accepts l = true ↔ ∃ dropped kept, l = dropped ++ kept ∧ accepts kept = true := by
  induction l with
  | nil =>
    refine ⟨fun h => ⟨[], [], rfl, h⟩, fun ⟨dropped, kept, equal, h⟩ => ?_⟩
    rw [eq_comm, List.append_eq_nil_iff] at equal
    rwa [equal.2] at h
  | cons a rest ih =>
    simp only [anySuffix, Bool.or_eq_true, ih]
    constructor
    · rintro (h | ⟨dropped, kept, rfl, h⟩)
      · exact ⟨[], a :: rest, rfl, h⟩
      · exact ⟨a :: dropped, kept, rfl, h⟩
    · rintro ⟨dropped, kept, equal, h⟩
      cases dropped with
      | nil => exact .inl (by simpa [equal] using h)
      | cons b dropped =>
        simp only [List.cons_append, List.cons.injEq] at equal
        exact .inr ⟨dropped, kept, equal.2, h⟩

/-- Whether a name is covered by the places in order. -/
def covers : List Wildcard → List Char → Bool
  | [], cs => cs.isEmpty
  | .run :: rest, cs => anySuffix (covers rest) cs
  | place :: rest, c :: cs => place.accepts c && covers rest cs
  | _ :: _, [] => false

/-- Which tails of the places, from all of them down to none, cover the empty name. -/
def coverEmpty : List Wildcard → List Bool
  | [] => [true]
  | place :: rest =>
    let row := coverEmpty rest
    (place == .run && row.headD false) :: row

/-- Which tails of the places cover a name with this first character, when it is known which of them
cover the rest of the name. -/
def coverCons (c : Char) : List Wildcard → List Bool → List Bool
  | place :: rest, here :: after =>
    let row := coverCons c rest after
    (if place == .run then row.headD false || here else place.accepts c && after.headD false) :: row
  | _, _ => [false]

/-- Which tails of the places cover a name. It is found from the end of the name on, so that nothing
is tried twice. -/
def coverRow (places : List Wildcard) (cs : List Char) : List Bool :=
  cs.foldr (coverCons · places) (coverEmpty places)

/-- Which tails of the places cover a name, tried one by one. -/
def coverTails : List Wildcard → List Char → List Bool
  | [], cs => [covers [] cs]
  | place :: rest, cs => covers (place :: rest) cs :: coverTails rest cs

theorem headD_coverTails (places : List Wildcard) (cs : List Char) :
    (coverTails places cs).headD false = covers places cs := by
  cases places <;> rfl

theorem coverEmpty_eq_coverTails (places : List Wildcard) :
    coverEmpty places = coverTails places [] := by
  induction places with
  | nil => rfl
  | cons place rest ih =>
    rw [coverEmpty, coverTails, ih, headD_coverTails]
    cases place <;> simp [covers, anySuffix]

theorem coverCons_coverTails (c : Char) (places : List Wildcard) (cs : List Char) :
    coverCons c places (coverTails places cs) = coverTails places (c :: cs) := by
  induction places with
  | nil => rfl
  | cons place rest ih =>
    rw [coverTails, coverCons, coverTails, ih, headD_coverTails, headD_coverTails]
    cases place <;> simp [covers, anySuffix]

theorem coverRow_eq_coverTails (places : List Wildcard) (cs : List Char) :
    coverRow places cs = coverTails places cs := by
  induction cs with
  | nil => exact coverEmpty_eq_coverTails places
  | cons c cs ih => rw [coverRow, List.foldr_cons, ← coverRow, ih, coverCons_coverTails]

/-- Whether a name matches a name pattern. -/
def matchesName (pattern name : String) : Bool :=
  (coverRow (wildcards pattern.toList) name.toList).headD false

theorem matchesName_eq_covers (pattern name : String) :
    matchesName pattern name = covers (wildcards pattern.toList) name.toList := by
  rw [matchesName, coverRow_eq_coverTails, headD_coverTails]

example : matchesName "*.[!jt]s" "a.cs" = true := by decide +kernel

example : matchesName "[z-a]" "z" = false := by decide +kernel

end Baseline.Glob
