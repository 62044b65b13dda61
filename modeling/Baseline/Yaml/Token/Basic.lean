import Baseline.Yaml.Error

/-!
# Tokens of a YAML text

The tokens mark where documents, collections, keys and entries begin and end, and hold directives,
anchors, tags and scalars.
-/

namespace Baseline.Yaml

/-- A directive: the version of the language, a tag handle, or one that means nothing here. -/
inductive Directive where
  | version (major minor : Nat)
  | tagHandle (handle stem : String)
  | unknown
  deriving DecidableEq, Repr

/-- What a token is. A tag has a handle unless it is given in full; a scalar is plain when it stands
without quotes and indicators. -/
inductive TokenKind where
  | streamStart
  | streamEnd
  | directive (directive : Directive)
  | documentStart
  | documentEnd
  | blockSequenceStart
  | blockMappingStart
  | blockEnd
  | flowSequenceStart
  | flowSequenceEnd
  | flowMappingStart
  | flowMappingEnd
  | blockEntry
  | flowEntry
  | key
  | value
  | alias (name : String)
  | anchor (name : String)
  | tag (handle : Option String) (suffix : String)
  | scalar (text : String) (plain : Bool)
  deriving DecidableEq, Repr

/-- The name of a token in messages. -/
def TokenKind.name : TokenKind → String
  | .streamStart => "<stream start>"
  | .streamEnd => "<stream end>"
  | .directive _ => "<directive>"
  | .documentStart => "<document start>"
  | .documentEnd => "<document end>"
  | .blockSequenceStart => "<block sequence start>"
  | .blockMappingStart => "<block mapping start>"
  | .blockEnd => "<block end>"
  | .flowSequenceStart => "["
  | .flowSequenceEnd => "]"
  | .flowMappingStart => "\x7b"
  | .flowMappingEnd => "\x7d"
  | .blockEntry => "-"
  | .flowEntry => ","
  | .key => "?"
  | .value => ":"
  | .alias _ => "<alias>"
  | .anchor _ => "<anchor>"
  | .tag _ _ => "<tag>"
  | .scalar _ _ => "<scalar>"

/-- A token with the marks of its start and its end. -/
structure Token where
  kind : TokenKind
  start : Mark
  stop : Mark
  deriving DecidableEq, Repr

/-- A problem as an error, met while doing something that began at a mark. -/
def failDuring {α : Type} (activity : Activity) (start : Mark) (problem : Problem) (mark : Mark) :
    Except FormError α :=
  .error (.marked (.during activity start problem mark))

/-- A problem as an error. -/
def failAt {α : Type} (problem : Problem) (mark : Mark) : Except FormError α :=
  .error (.marked (.plain problem mark))

end Baseline.Yaml
