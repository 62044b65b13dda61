import Baseline.FileSystem.Basic

/-!
# Changes of a file system

The steps that lead from one file system to another: what is gone is removed, what is below a
directory before the directory, then directories are made and files written, a directory before what
is below it. Links are never made.
-/

namespace Baseline.FileSystem

/-- One step. -/
inductive Change where
  | removeFile (address : Address)
  | removeDirectory (address : Address)
  | makeDirectory (address : Address)
  | write (address : Address) (bytes : List UInt8)
  deriving DecidableEq, Repr

/-- Whether the second entry can take the place of the first without its removal. -/
def canFollow : Entry → Entry → Bool
  | .file _ _, .file _ _ => true
  | .directory _, .directory _ => true
  | .link old, .link new => old == new
  | _, _ => false

/-- The step that removes an entry. -/
def removal (address : Address) : Entry → Change
  | .directory _ => .removeDirectory address
  | _ => .removeFile address

/-- The step that makes an entry. -/
def creation (address : Address) : Entry → Option Change
  | .file bytes _ => some (.write address bytes)
  | .directory _ => some (.makeDirectory address)
  | .link _ => none

/-- The steps that remove what the second file system does not keep. -/
def removals (old new : FileSystem) : List Change :=
  let gone := old.entries.filter fun (address, entry) =>
    !(new.find? address).any (canFollow entry)
  let deepestFirst := gone.mergeSort fun a b => b.1.length ≤ a.1.length
  deepestFirst.map fun (address, entry) => removal address entry

/-- The steps that make what the first file system does not have. -/
def creations (old new : FileSystem) : List Change :=
  let fresh := new.entries.filter fun (address, entry) => old.find? address != some entry
  let highestFirst := fresh.mergeSort fun a b => a.1.length ≤ b.1.length
  highestFirst.filterMap fun (address, entry) => creation address entry

/-- The steps that lead from a file system to another one. -/
def changes (old new : FileSystem) : List Change := removals old new ++ creations old new

end Baseline.FileSystem
