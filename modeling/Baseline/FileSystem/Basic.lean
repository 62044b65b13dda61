import Baseline.Number.Reading
import Baseline.Path
import Baseline.Text.Order
import Baseline.Text.Quoted

/-!
# File systems

A file system is a tree of files, directories and symbolic links, each at an address: the names from
the root down to it. The root is a directory that needs no entry. A file or directory may be locked:
it is there, but its content cannot be read.
-/

namespace Baseline

/-- The names from the root down to an entry. -/
abbrev Address := List String

/-- What stands at an address. -/
inductive Entry where
  | file (bytes : List UInt8) (locked : Bool)
  | directory (locked : Bool)
  | link (target : String)
  deriving DecidableEq, Repr

/-- The entries by their addresses, the address of the current directory, and the home directory of
each user who has one, the current user being the empty name. -/
structure FileSystem where
  entries : List (Address × Entry)
  current : Address
  homes : List (String × String)
  deriving Repr

/-- Why an entry cannot be used. -/
inductive FileFault where
  | missing
  | denied
  | occupied
  | notDirectory
  | isDirectory
  | notEmpty
  | nameTooLong
  | tooManyLinks
  deriving DecidableEq, Repr

namespace FileFault

/-- The number of a fault. -/
def number : FileFault → Nat
  | .missing => 2
  | .denied => 13
  | .occupied => 17
  | .notDirectory => 20
  | .isDirectory => 21
  | .nameTooLong => 36
  | .notEmpty => 39
  | .tooManyLinks => 40

/-- The wording of a fault. -/
def reason : FileFault → String
  | .missing => "No such file or directory"
  | .denied => "Permission denied"
  | .occupied => "File exists"
  | .notDirectory => "Not a directory"
  | .isDirectory => "Is a directory"
  | .nameTooLong => "File name too long"
  | .notEmpty => "Directory not empty"
  | .tooManyLinks => "Too many levels of symbolic links"

/-- Whether a fault only says that nothing is there. -/
def saysAbsent : FileFault → Bool
  | .missing => true
  | .notDirectory => true
  | .tooManyLinks => true
  | _ => false

end FileFault

/-- Why an operation on a path fails, or has no content to write. -/
inductive FileError where
  /-- A fault of what the path names. -/
  | fault (fault : FileFault) (path : Path)
  /-- A fault found while the directory of the path is removed. -/
  | removal (fault : FileFault) (path : Path)
  /-- A symbolic link in place of a directory that is to be removed. -/
  | removalOfLink
  /-- A path with the null character, which names nothing. -/
  | nullCharacter
  /-- A number to be written that has too many digits. -/
  | longNumber
  deriving DecidableEq, Repr

/-- The wording of an error. -/
def FileError.message : FileError → String
  | .fault cause path => s!"[Errno {cause.number}] {cause.reason}: " ++ Text.quoted path.text
  | .removal cause path =>
    s!"[Errno {cause.number}] {cause.reason}: PosixPath(" ++ Text.quoted path.text ++ ")"
  | .removalOfLink => "Cannot call rmtree on a symbolic link"
  | .nullCharacter => "embedded null byte"
  | .longNumber => Number.unshowableMessage

namespace FileSystem

/-- The entry at an address; the root is a directory. -/
def find? (fs : FileSystem) (address : Address) : Option Entry :=
  if address.isEmpty then some (.directory false) else fs.entries.lookup address

/-- The file system without the entry at an address. -/
def erase (fs : FileSystem) (address : Address) : FileSystem :=
  { fs with entries := fs.entries.filter fun (other, _) => other != address }

/-- The file system with an entry put at an address. -/
def put (fs : FileSystem) (address : Address) (entry : Entry) : FileSystem :=
  { fs with entries := (fs.erase address).entries ++ [(address, entry)] }

/-- Whether an address lies below another one. -/
def isBelow (above address : Address) : Bool :=
  above.isPrefixOf address && above.length < address.length

/-- The file system without the entries below an address. -/
def eraseBelow (fs : FileSystem) (above : Address) : FileSystem :=
  { fs with entries := fs.entries.filter fun (address, _) => !isBelow above address }

/-- The names of the entries in a directory, as they are stored. -/
def children (fs : FileSystem) (directory : Address) : List String :=
  fs.entries.filterMap fun (address, _) =>
    if !address.isEmpty && address.dropLast == directory then address.getLast? else none

/-- The names of the entries in a directory, in order. -/
def names (fs : FileSystem) (directory : Address) : List String :=
  Text.sorted (fs.children directory)

theorem lookup_filter_ne {entries : List (Address × Entry)} {address other : Address}
    (h : other ≠ address) :
    (entries.filter fun (a, _) => a != address).lookup other = entries.lookup other := by
  induction entries with
  | nil => rfl
  | cons first rest ih =>
    obtain ⟨a, e⟩ := first
    by_cases ha : a = address
    · subst ha
      have : (other == a) = false := by simpa using h
      simp [List.lookup_cons, ih, this]
    · simp [ha, List.lookup_cons, ih]

theorem find?_erase_of_ne {fs : FileSystem} {address other : Address} (h : other ≠ address) :
    (fs.erase address).find? other = fs.find? other := by
  simp [find?, erase, lookup_filter_ne h]

theorem find?_put_of_ne {fs : FileSystem} {address other : Address} (entry : Entry)
    (h : other ≠ address) : (fs.put address entry).find? other = fs.find? other := by
  have key : ((fs.erase address).entries ++ [(address, entry)]).lookup other =
      fs.entries.lookup other := by
    have : [(address, entry)].lookup other = none := by
      have : (other == address) = false := by simpa using h
      simp [List.lookup_cons, this]
    simp [List.lookup_append, this, erase, lookup_filter_ne h]
  simp [find?, put, key]

end FileSystem

end Baseline
