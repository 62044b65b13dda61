import Baseline.Glob.Wildcard
import Baseline.Path
import Baseline.Text.Blank
import Baseline.Text.Lowercase
import Baseline.Text.Quoted

/-!
# Glob rules

A rule is a pattern of names separated by slashes, in which `**` stands for any number of names. A
matcher is a list of rules and matches what one of them matches.
-/

namespace Baseline.Glob

/-- The name pattern that stands for any number of names. -/
def globstar : String := "**"

/-- The text with every run of slashes merged into one; `afterSlash` tells that one was just
read. -/
def mergeSlashesFrom (afterSlash : Bool) : List Char → List Char
  | [] => []
  | c :: rest =>
    if c == '/' && afterSlash then mergeSlashesFrom true rest
    else c :: mergeSlashesFrom (c == '/') rest

/-- The text with every run of slashes merged into one. -/
def mergeSlashes (cs : List Char) : List Char :=
  mergeSlashesFrom false cs

/-- Whether the name patterns, in order, cover the names, in order. -/
def matchesNames : List String → List String → Bool
  | [], names => names.isEmpty
  | pattern :: patterns, names =>
    if pattern == globstar then anySuffix (matchesNames patterns) names
    else
      match names with
      | [] => false
      | name :: rest => matchesName pattern name && matchesNames patterns rest

/-- A compiled pattern with its options. -/
structure Rule where
  pattern : String
  segments : List String
  ignoresCase : Bool
  matchesBase : Bool
  deriving DecidableEq, Repr

/-- The names of a path, slash runs merged, in lower case where case is ignored. -/
def namesOf (ignoresCase : Bool) (path : String) : List String :=
  let target := Text.replaceChar '\\' '/' path.toList
  let target := if ignoresCase then Text.lower target else target
  (Text.pieces '/' (mergeSlashes target)).map String.ofList

/-- Whether a rule matches a path. Under `matchesBase` a single name pattern may match any name. -/
def Rule.matches (rule : Rule) (path : String) : Bool :=
  let names := namesOf rule.ignoresCase path
  match rule.matchesBase, rule.segments with
  | true, [segment] => names.any fun name => name != "" && matchesName segment name
  | _, segments => matchesNames segments names

/-- The list with neighbouring globstars merged. -/
def mergeGlobstars : List String → List String
  | [] => []
  | segment :: rest =>
    match mergeGlobstars rest with
    | next :: more =>
      if segment == globstar && next == globstar then next :: more else segment :: next :: more
    | [] => [segment]

/-- A pattern trimmed, with single forward slashes, without a leading `./`, and with `**` after a
slash at its end. -/
def normalized (pattern : String) : Option (List Char) :=
  match mergeSlashes (Text.replaceChar '\\' '/' (Text.trim pattern.toList)) with
  | [] => none
  | cs =>
    let cs := match cs with
      | '.' :: '/' :: rest => rest
      | cs => cs
    some (if cs.getLast? == some '/' then cs ++ globstar.toList else cs)

/-- The rule of a pattern; a blank pattern has none. -/
def Rule.ofPattern? (ignoresCase matchesBase : Bool) (pattern : String) : Option Rule :=
  (normalized pattern).map fun cs =>
    { pattern := String.ofList cs
      segments := mergeGlobstars
        ((Text.pieces '/' (if ignoresCase then Text.lower cs else cs)).map String.ofList)
      ignoresCase
      matchesBase := matchesBase && !cs.contains '/' }

/-- Rules in order; a path is excluded when one of them matches it. -/
structure Matcher where
  rules : List Rule
  deriving DecidableEq, Repr

namespace Matcher

/-- The matcher of a list of patterns. -/
def ofPatterns (ignoresCase matchesBase : Bool) (patterns : List String) : Matcher :=
  ⟨patterns.filterMap (Rule.ofPattern? ignoresCase matchesBase)⟩

/-- The normalized patterns of the rules. -/
def patterns (m : Matcher) : List String :=
  m.rules.map Rule.pattern

/-- Whether one of the rules matches the path. -/
def excludes (m : Matcher) (path : String) : Bool :=
  m.rules.any (·.matches path)

/-- The matcher as it is shown, by its quoted patterns. -/
def display (m : Matcher) : String :=
  "Matcher([" ++ ", ".intercalate (m.patterns.map Text.quoted) ++ "])"

end Matcher

end Baseline.Glob
