import Baseline.Path
import Baseline.Source.Basic
import Baseline.Source.TypedScript
import Baseline.Text.Lowercase

/-!
# Classification of files

The extension of a file decides its family. It decides its language too, except for page
components, whose content does.
-/

namespace Baseline.Source

/-- The extensions of plain script files. -/
def plainExtensions : List String := [".js", ".jsx", ".cjs", ".mjs", ".vue"]

/-- The extensions of typed script files. -/
def typedExtensions : List String := [".ts", ".tsx", ".cts", ".mts"]

/-- The extensions of markup files. -/
def markupExtensions : List String := [".html", ".htm"]

/-- The extensions of data files. -/
def dataExtensions : List String := [".yml", ".yaml"]

/-- The extensions of files whose content decides their language. -/
def mixedExtensions : List String := [".vue"]

/-- The extension of a path in lower case; a backslash counts as a slash. -/
def extension (path : String) : String :=
  Text.lowered (Path.parse (unixPath path)).suffix

/-- Whether a file holds typed script. -/
def isTyped (path content : String) : Bool :=
  typedExtensions.contains (extension path) ||
    (mixedExtensions.contains (extension path) && hasTypedScript content.toList)

/-- Whether a file is a markup file. -/
def isMarkup (path : String) : Bool := markupExtensions.contains (extension path)

/-- Whether a file is a data file. -/
def isData (path : String) : Bool := dataExtensions.contains (extension path)

/-- Whether a file holds plain script, or may embed it. -/
def isPlain (path : String) : Bool :=
  plainExtensions.contains (extension path) || isMarkup path || isData path

/-- Whether a file can be a source file, by its extension alone. -/
def isCandidate (path : String) : Bool :=
  typedExtensions.contains (extension path) || isPlain path

/-- The language of a file. -/
def language? (path content : String) : Option Language :=
  if isTyped path content then some .typescript
  else if isPlain path then some .javascript
  else none

/-- The family of a file with a candidate extension. -/
def family (path : String) : Family :=
  if isMarkup path then .markup else if isData path then .data else .script

/-- The language and the family of a source file. -/
def classify (path content : String) : Option (Language × Family) :=
  (language? path content).map fun language => (language, family path)

theorem isSome_language?_iff_isCandidate (path content : String) :
    (language? path content).isSome = true ↔ isCandidate path = true := by
  have mixed : mixedExtensions.contains (extension path) = true →
      plainExtensions.contains (extension path) = true := by
    simp [mixedExtensions, plainExtensions]
    intro h
    simp [h]
  unfold language? isTyped isCandidate isPlain
  grind

end Baseline.Source
