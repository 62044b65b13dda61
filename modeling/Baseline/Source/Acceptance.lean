import Baseline.Path
import Baseline.Text.Blank
import Baseline.Text.Lowercase

/-!
# Acceptance of script files

Generated scripts are left out: files named as minified, files with very long lines on average, and
bundles, which start with an immediately called function. Files over a size limit are left out too.
-/

namespace Baseline.Source

open Text

/-- The size limit in thousands of bytes unless another one is given. -/
def standardSizeLimit : Int := 1000

/-- The average line length up to which a script counts as written by hand. -/
def standardLineLength : Int := 200

/-- Whether the name of a file says that it is minified. -/
def isMinifiedName (path : String) : Bool :=
  let stem := Text.lower (Path.parse (unixPath path)).stem.toList
  ".min".toList.isSuffixOf stem || "-min".toList.isSuffixOf stem

/-- Whether the lines of a text are longer on average than a threshold. -/
def hasLongLines (content : String) (threshold : Int) : Bool :=
  let cs := content.toList
  !cs.isEmpty && threshold * (cs.count '\n' + 1) < cs.length

/-- Whether the text starts, after blanks, with a called function that is negated. -/
def startsWithBundle (cs : List Char) : Bool :=
  let function := "!function".toList
  let rest := trimLeft cs
  function.isPrefixOf rest && (trimLeft (rest.drop function.length)).head? == some '('

/-- Whether a bundle starts after one of the ends of a comment. -/
def hasBundleAfterComment : List Char → Bool
  | '*' :: '/' :: rest => startsWithBundle rest || hasBundleAfterComment rest
  | _ :: rest => hasBundleAfterComment rest
  | [] => false

/-- Whether a text is a bundle, possibly after a block comment. -/
def isBundle (content : String) : Bool :=
  let cs := trimLeft content.toList
  startsWithBundle cs ||
    match cs with
    | '/' :: '*' :: rest => hasBundleAfterComment rest
    | _ => false

/-- Whether a text takes more bytes than a limit in thousands. -/
def isTooBig (content : String) (limit : Int) : Bool :=
  limit * 1000 < content.utf8ByteSize

/-- Whether a script of a project is kept under a size limit. -/
def accepts (limit : Int) (path content : String) : Bool :=
  !isTooBig content limit && !isMinifiedName path && !hasLongLines content standardLineLength &&
    !isBundle content

end Baseline.Source
