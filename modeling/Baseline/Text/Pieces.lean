/-!
# Pieces of a text between separators

Cutting a text at every separator gives one piece more than there are separators; joining the pieces
gives the text back.
-/

namespace Baseline.Text

/-- The pieces between the characters that satisfy `isSeparator`, empty ones included. -/
def piecesBy (isSeparator : Char → Bool) : List Char → List (List Char)
  | [] => [[]]
  | c :: rest =>
    if isSeparator c then [] :: piecesBy isSeparator rest
    else match piecesBy isSeparator rest with
      | [] => [[c]]
      | piece :: pieces => (c :: piece) :: pieces

/-- The pieces between the occurrences of one separator. -/
def pieces (separator : Char) (cs : List Char) : List (List Char) :=
  piecesBy (· == separator) cs

theorem piecesBy_ne_nil (isSeparator : Char → Bool) (cs : List Char) :
    piecesBy isSeparator cs ≠ [] := by
  cases cs with
  | nil => simp [piecesBy]
  | cons c rest =>
    simp only [piecesBy]
    split
    · simp
    · split <;> simp

/-- The pieces written one after the other with the separator in between. -/
def joined (separator : List Char) : List (List Char) → List Char
  | [] => []
  | [piece] => piece
  | piece :: pieces => piece ++ separator ++ joined separator pieces

/-- The pieces of a text at one separator, as texts. -/
def splitAt (separator : Char) (s : String) : List String :=
  (pieces separator s.toList).map String.ofList

/-- Every occurrence of one character replaced by another. -/
def replaceChar (old new : Char) (cs : List Char) : List Char :=
  cs.map fun c => if c == old then new else c

/-- The text from the first place where it starts with `part`, `none` when it does so nowhere. -/
def findPart (part : List Char) : List Char → Option (List Char)
  | [] => if part.isEmpty then some [] else none
  | c :: rest => if part.isPrefixOf (c :: rest) then some (c :: rest) else findPart part rest

end Baseline.Text
