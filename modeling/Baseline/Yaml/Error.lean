import Baseline.Text.Quoted
import Baseline.Text.Utf8
import Baseline.Yaml.Cursor

/-!
# What is wrong with a YAML text

A text is refused for a character that may not stand in it, or for a problem at a mark. A problem
may come with what was being done when it was met, and where that began.
-/

namespace Baseline.Yaml

open Text (quoted)

/-- What was being done when a problem was met. -/
inductive Activity where
  | scanning (what : String)
  | parsing (what : String)
  | constructing (what : String)
  | expectingOneDocument
  | repeatingAnchor (name : String)
  deriving DecidableEq, Repr

/-- The wording of an activity. -/
def Activity.message : Activity → String
  | .scanning what => "while scanning " ++ what
  | .parsing what => "while parsing " ++ what
  | .constructing what => "while constructing " ++ what
  | .expectingOneDocument => "expected a single document in the stream"
  | .repeatingAnchor name => "found duplicate anchor " ++ quoted name ++ "; first occurrence"

/-- A problem with the form of a text. -/
inductive Problem where
  | cannotStart (c : Char)
  | expectedColon
  | notAllowed (what : String)
  | expected (what : String) (found : Char)
  | zeroIndentation
  | unknownEscape (c : Char)
  | endOfStream
  | documentSeparator
  | encoding (malformed : Text.Utf8.Malformed)
  | expectedToken (what found : String)
  | expectedDelimiter (what found : String)
  | repeatedVersion
  | incompatibleVersion
  | repeatedHandle (handle : String)
  | undefinedHandle (handle : String)
  | undefinedAlias (name : String)
  | secondDocument
  | secondOccurrence
  | noConstructor (tag : String)
  | wrongNode (expected found : String)
  | wrongSize (size : Nat)
  | unhashableKey
  | notAscii (text : String)
  | base64 (reason : String)
  deriving DecidableEq, Repr

/-- The wording of the fault of a text that should be ASCII. -/
def notAsciiMessage (text : String) : String :=
  let cs := text.toList
  let first := (cs.takeWhile fun c => c.toNat < 0x80).length
  let run := (cs.drop first).takeWhile fun c => 0x80 ≤ c.toNat
  let place := match run with
    | [c] => " '" ++ String.ofList (Text.numericEscape c.toNat) ++ s!"' in position {first}"
    | run => s!"s in position {first}-{first + run.length - 1}"
  "'ascii' codec can't encode character" ++ place ++ ": ordinal not in range(128)"

/-- The wording of a problem. -/
def Problem.message : Problem → String
  | .cannotStart c => "found character " ++ quoted c.toString ++ " that cannot start any token"
  | .expectedColon => "could not find expected ':'"
  | .notAllowed what => what ++ " are not allowed here"
  | .expected what found => "expected " ++ what ++ ", but found " ++ quoted found.toString
  | .zeroIndentation => "expected indentation indicator in the range 1-9, but found 0"
  | .unknownEscape c => "found unknown escape character " ++ quoted c.toString
  | .endOfStream => "found unexpected end of stream"
  | .documentSeparator => "found unexpected document separator"
  | .encoding malformed => malformed.message
  | .expectedToken what found => "expected " ++ what ++ ", but found " ++ quoted found
  | .expectedDelimiter what found => "expected " ++ what ++ ", but got " ++ quoted found
  | .repeatedVersion => "found duplicate YAML directive"
  | .incompatibleVersion => "found incompatible YAML document (version 1.* is required)"
  | .repeatedHandle handle => "duplicate tag handle " ++ quoted handle
  | .undefinedHandle handle => "found undefined tag handle " ++ quoted handle
  | .undefinedAlias name => "found undefined alias " ++ quoted name
  | .secondDocument => "but found another document"
  | .secondOccurrence => "second occurrence"
  | .noConstructor tag => "could not determine a constructor for the tag " ++ quoted tag
  | .wrongNode what found => "expected " ++ what ++ ", but found " ++ found
  | .wrongSize size => s!"expected a single mapping item, but found {size} items"
  | .unhashableKey => "found unhashable key"
  | .notAscii text => "failed to convert base64 data into ascii: " ++ notAsciiMessage text
  | .base64 reason => "failed to decode base64 data: " ++ reason

/-- A problem at a mark, with what was being done and where that began. -/
structure MarkedProblem where
  context : Option (Activity × Option Mark)
  problem : Problem
  mark : Mark
  deriving DecidableEq, Repr

/-- A problem met while doing nothing in particular. -/
def MarkedProblem.plain (problem : Problem) (mark : Mark) : MarkedProblem :=
  ⟨none, problem, mark⟩

/-- A problem met while doing something that began at a mark. -/
def MarkedProblem.during (activity : Activity) (start : Mark) (problem : Problem) (mark : Mark) :
    MarkedProblem :=
  ⟨some (activity, some start), problem, mark⟩

/-- Why the form of a text is refused. -/
inductive FormError where
  /-- A character that may not stand in a text, and where it stands. -/
  | unprintable (c : Char) (index : Nat)
  | marked (problem : MarkedProblem)
  /-- An escape of a code point that is no character. -/
  | codePoint (code : Nat)
  deriving DecidableEq, Repr

/-- The name by which messages call a text. -/
def textName : String := "<unicode string>"

/-- The most characters of a line on either side of a mark that are shown whole. -/
def shownReach : Nat := 36

/-- The line of a mark, cut where it is long, over a caret below the mark. -/
def Mark.snippet (mark : Mark) (cs : List Char) : String :=
  let before := ((cs.take mark.index).reverse.takeWhile (!isBreakOrEnd ·)).reverse
  let after := (cs.drop mark.index).takeWhile (!isBreakOrEnd ·)
  let (head, before) :=
    if before.length > shownReach then (" ... ", before.drop (before.length - (shownReach + 1 - 5)))
    else ("", before)
  let (tail, after) :=
    if after.length > shownReach then (" ... ", after.take (shownReach + 1 - 5)) else ("", after)
  "    " ++ head ++ String.ofList (before ++ after) ++ tail ++ "\n" ++
    String.ofList (List.replicate (4 + head.length + before.length) ' ') ++ "^"

/-- A mark with its line, as messages show it. -/
def Mark.display (mark : Mark) (cs : List Char) : String :=
  s!"  in \"{textName}\", line {mark.line + 1}, column {mark.column + 1}:\n" ++ mark.snippet cs

/-- A problem with its context and marks. -/
def MarkedProblem.message (p : MarkedProblem) (cs : List Char) : String :=
  let context := match p.context with
    | none => []
    | some (activity, none) => [activity.message]
    | some (activity, some start) =>
      if start.line == p.mark.line && start.column == p.mark.column then [activity.message]
      else [activity.message, start.display cs]
  "\n".intercalate (context ++ [p.problem.message, p.mark.display cs])

/-- The wording of a refused character. -/
def unprintableMessage (c : Char) (index : Nat) : String :=
  "unacceptable character #x" ++ String.ofList (Text.hex 4 c.toNat) ++
    s!": special characters are not allowed\n  in \"{textName}\", position {index}"

/-- The wording of an escape that stands for no character. -/
def codePointMessage (code : Nat) : String :=
  if code < 0x80000000 then "chr() arg not in range(0x110000)"
  else "Python int too large to convert to C int"

/-- Whether a character may stand in a text. -/
def isAcceptable (c : Char) : Bool :=
  let n := c.toNat
  n == 0x09 || n == 0x0a || n == 0x0d || (0x20 ≤ n && n ≤ 0x7e) || n == 0x85 ||
    (0xa0 ≤ n && n ≤ 0xfffd) || 0x10000 ≤ n

/-- The error of the first character that may not stand in a text, if there is one. -/
def firstUnacceptable (index : Nat) : List Char → Option FormError
  | [] => none
  | c :: rest =>
    if isAcceptable c then firstUnacceptable (index + 1) rest else some (.unprintable c index)

end Baseline.Yaml
