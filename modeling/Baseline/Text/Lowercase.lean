import Baseline.Text.Property.Cased
import Baseline.Text.Property.Lower

/-!
# Lower-casing

Every character is replaced by its lower form. Two characters need more than themselves to know it:
the dotted capital I has a lower form of two characters, and a capital sigma at the end of a word
takes the final form.
-/

namespace Baseline.Text

open Property

/-- A cased character follows, case-ignorable ones in between not counting. -/
def followedByCased (cs : List Char) : Bool :=
  match cs.dropWhile isCaseIgnorable with
  | [] => false
  | c :: _ => isCased c

/-- The lower form of a text that stands after a cased character or not. -/
def lowerFrom (afterCased : Bool) : List Char → List Char
  | [] => []
  | c :: rest =>
    let next := lowerFrom (if isCaseIgnorable c then afterCased else isCased c) rest
    if c == 'İ' then 'i' :: '\u0307' :: next
    else if c == 'Σ' then (if afterCased && !followedByCased rest then 'ς' else 'σ') :: next
    else lowerChar c :: next

/-- The lower form of a text. -/
def lower (cs : List Char) : List Char :=
  lowerFrom false cs

/-- The lower form of a text. -/
def lowered (s : String) : String :=
  String.ofList (lower s.toList)

@[simp] theorem lower_nil : lower [] = [] := rfl

example : lowered "ΟΔΟΣ Σ'Α.İX" = "οδος σ'α.i̇x" := by decide +kernel

end Baseline.Text
