import Baseline.Text.Pieces

/-!
# Paths

A path is a root and the names below it. Empty names and single dots are dropped when a path is
read, two dots are kept. Exactly two leading slashes are a root of their own.
-/

namespace Baseline

/-- Where a path starts: at the current directory, at the root, or at the root of two slashes. -/
inductive Root where
  | none
  | single
  | double
  deriving DecidableEq, Repr

/-- How a root is written. -/
def Root.text : Root → String
  | .none => ""
  | .single => "/"
  | .double => "//"

/-- A root and the names below it. -/
structure Path where
  root : Root
  parts : List String
  deriving DecidableEq, Repr

namespace Path

/-- The root that a text starts with. -/
def rootOf : List Char → Root
  | '/' :: '/' :: '/' :: _ => .single
  | '/' :: '/' :: _ => .double
  | '/' :: _ => .single
  | _ => .none

/-- The path that a text spells. -/
def parse (s : String) : Path :=
  ⟨rootOf s.toList, (Text.splitAt '/' s).filter fun part => part != "" && part != "."⟩

/-- The spelling of a path. -/
def text (p : Path) : String :=
  match p.root, p.parts with
  | .none, [] => "."
  | root, parts => root.text ++ "/".intercalate parts

instance : ToString Path := ⟨text⟩

/-- Whether the path starts at a root. -/
def isAbsolute (p : Path) : Bool := p.root != .none

/-- The path below another one; an absolute path stays as it is. -/
def join (base p : Path) : Path :=
  if p.isAbsolute then p else ⟨base.root, base.parts ++ p.parts⟩

/-- A path below another one, as it is spelled. -/
def below (base : Path) (s : String) : Path := base.join (parse s)

/-- The path with one more name. -/
def child (p : Path) (name : String) : Path := ⟨p.root, p.parts ++ [name]⟩

/-- The path without its last name. -/
def parent (p : Path) : Path := ⟨p.root, p.parts.dropLast⟩

/-- The last name, empty if there is none. -/
def name (p : Path) : String := p.parts.getLastD ""

theorem join_of_isAbsolute {base p : Path} (h : p.isAbsolute = true) : base.join p = p := by
  simp [join, h]

/-- A name cut at its last dot, unless that is its first or last character. -/
def stemAndSuffix (name : List Char) : List Char × List Char :=
  let ending := (name.reverse.takeWhile (· != '.')).reverse
  let before := name.take (name.length - ending.length - 1)
  if ending.length == name.length || ending.isEmpty || before.isEmpty then (name, [])
  else (before, '.' :: ending)

/-- The last name without its suffix. -/
def stem (p : Path) : String := String.ofList (stemAndSuffix p.name.toList).1

/-- The suffix of the last name, with its dot. -/
def suffix (p : Path) : String := String.ofList (stemAndSuffix p.name.toList).2

end Path

/-- The text with every backslash turned into a slash. -/
def unixPath (s : String) : String :=
  String.ofList (Text.replaceChar '\\' '/' s.toList)

end Baseline
