import Baseline.Text.Blank
import Baseline.Text.Property.Word

/-!
# Typed script tags

A page component is typed when one of its script tags has a `lang` attribute with the value `ts` or
`tsx`. The tag is looked for in any case; case is ignored over all of Unicode, where the long s and
the two Turkish letters i count as forms of `s` and `i`.
-/

namespace Baseline.Source

open Text Text.Property

/-- Whether a character is a form of a lower-case ASCII letter. -/
def isFormOf (letter c : Char) : Bool :=
  c.toLower == letter || (letter == 's' && c == 'ſ') ||
    (letter == 'i' && (c == 'İ' || c == 'ı'))

/-- What follows a word, in any case, at the start of a text. -/
def afterWord? : List Char → List Char → Option (List Char)
  | [], cs => some cs
  | _ :: _, [] => none
  | letter :: word, c :: cs => if isFormOf letter c then afterWord? word cs else none

/-- What follows one quote, of either kind. -/
def afterQuote? : List Char → Option (List Char)
  | c :: rest => if c == '"' || c == '\'' then some rest else none
  | [] => none

/-- What follows an equals sign that may have blanks around it. -/
def afterEquals? (cs : List Char) : Option (List Char) :=
  match cs.dropWhile isBlank with
  | '=' :: rest => some (rest.dropWhile isBlank)
  | _ => none

/-- Whether the text starts with a `lang` attribute of value `ts` or `tsx`. -/
def startsWithTypedLang (cs : List Char) : Bool :=
  match (afterWord? "lang".toList cs).bind afterEquals? |>.bind afterQuote?
      |>.bind (afterWord? "ts".toList) with
  | none => false
  | some rest =>
    (afterQuote? rest).isSome || ((afterWord? "x".toList rest).bind afterQuote?).isSome

/-- Whether a typed `lang` attribute starts a word before the tag closes. -/
def hasTypedLang (previous : Char) : List Char → Bool
  | [] => false
  | c :: rest =>
    (!isWord previous && startsWithTypedLang (c :: rest)) || (c != '>' && hasTypedLang c rest)

/-- Whether the text starts with a typed script tag. -/
def startsWithTypedScript (cs : List Char) : Bool :=
  match cs with
  | '<' :: rest =>
    match afterWord? "script".toList rest with
    | some (c :: attributes) => !isWord c && hasTypedLang 't' (c :: attributes)
    | _ => false
  | _ => false

/-- Whether a text has a typed script tag. -/
def hasTypedScript : List Char → Bool
  | [] => false
  | c :: rest => startsWithTypedScript (c :: rest) || hasTypedScript rest

end Baseline.Source
