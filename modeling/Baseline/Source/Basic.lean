import Baseline.Keyed

/-!
# Source files

A source file has a role in its project, a language, and belongs to the family of files that one
analyzer looks after. The files of a project are grouped by family.
-/

namespace Baseline

/-- Whether a file belongs to the main sources or to the tests. -/
inductive Role where
  | main
  | test
  deriving DecidableEq, Repr

/-- The tag of a role. -/
def Role.tag : Role → String
  | .main => "MAIN"
  | .test => "TEST"

/-- The languages of source files. -/
inductive Language where
  | javascript
  | typescript
  deriving DecidableEq, Repr

/-- The tag of a language. -/
def Language.tag : Language → String
  | .javascript => "js"
  | .typescript => "ts"

/-- The language with a tag. -/
def Language.ofTag? : String → Option Language
  | "js" => some .javascript
  | "ts" => some .typescript
  | _ => none

/-- The name of a language as listings show it. -/
def Language.displayName : Language → String
  | .javascript => "javascript"
  | .typescript => "typescript"

/-- The families of files, each with an analyzer of its own. -/
inductive Family where
  | script
  | markup
  | data
  deriving DecidableEq, Repr

namespace Family

/-- The families in the order in which they are analyzed. -/
def all : List Family := [.script, .markup, .data]

/-- The name of a family. -/
def name : Family → String
  | .script => "script"
  | .markup => "markup"
  | .data => "data"

/-- The family with a name. -/
def ofName? (s : String) : Option Family := all.find? (·.name == s)

end Family

/-- A file as it was found, with the language and role decided then. -/
structure SourceFile where
  content : String
  role : Role
  language : Language
  deriving DecidableEq, Repr

/-- Files by path, in the order in which they were found. -/
abbrev FileGroup := Keyed SourceFile

/-- The files of a project by family. -/
structure ProjectFiles where
  script : FileGroup := ∅
  markup : FileGroup := ∅
  data : FileGroup := ∅

namespace ProjectFiles

instance : EmptyCollection ProjectFiles := ⟨{}⟩

/-- The files of one family. -/
def group (files : ProjectFiles) : Family → FileGroup
  | .script => files.script
  | .markup => files.markup
  | .data => files.data

/-- The groups in the order in which they are analyzed. -/
def groups (files : ProjectFiles) : List (Family × FileGroup) :=
  Family.all.map fun family => (family, files.group family)

/-- The files with one group replaced. -/
def setGroup (files : ProjectFiles) (group : FileGroup) : Family → ProjectFiles
  | .script => { files with script := group }
  | .markup => { files with markup := group }
  | .data => { files with data := group }

@[simp] theorem group_setGroup (files : ProjectFiles) (group : FileGroup) (family other : Family) :
    (files.setGroup group family).group other =
      if other = family then group else files.group other := by
  cases family <;> cases other <;> simp [setGroup, ProjectFiles.group]

/-- The file added to its family, unless its path is already there. -/
def add (files : ProjectFiles) (family : Family) (path : String) (file : SourceFile) :
    ProjectFiles :=
  let group := files.group family
  if group.contains path then files else files.setGroup (group.put path file) family

/-- All files by path, a later family overwriting an earlier one. -/
def all (files : ProjectFiles) : FileGroup :=
  ((∅ : FileGroup).putAll files.script).putAll files.markup |>.putAll files.data

/-- The number of files over all families. -/
def size (files : ProjectFiles) : Nat :=
  files.script.size + files.markup.size + files.data.size

/-- The number of files of each family. -/
def counts (files : ProjectFiles) : List Nat :=
  files.groups.map fun (_, group) => group.size

end ProjectFiles

end Baseline
