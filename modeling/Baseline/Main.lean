import Baseline.CommandLine.Places
import Baseline.FileSystem.Change
import Std.Data.HashMap
import Std.Time.Format

/-!
# The command line

What a request looks at is read, the request is carried out on what was read, and what it changed is
written back.
-/

namespace Baseline.CommandLine

/-- The place of an address. -/
def place (address : Address) : IO.FS.DirEntry :=
  ⟨"/" ++ "/".intercalate address.dropLast, address.getLastD ""⟩

/-- The file at a place; one that cannot be read is locked. -/
def readFile (place : IO.FS.DirEntry) : IO Entry := do
  match ← (IO.FS.readBinFile place.path).toBaseIO with
  | .ok bytes => return .file bytes.toList false
  | .error _ => return .file [] true

/-- The directory at a place; one that cannot be listed is locked. -/
def readDirectory (place : IO.FS.DirEntry) : IO Entry := do
  match ← place.path.readDir.toBaseIO with
  | .ok _ => return .directory false
  | .error _ => return .directory true

/-- The link at a place; one that leads nowhere has no target. -/
def readLink (place : IO.FS.DirEntry) : IO Entry := do
  match ← (IO.FS.realPath place.path).toBaseIO with
  | .ok target => return .link target.toString
  | .error _ => return .link ""

/-- What stands at a place, if it is a file, a directory or a link. -/
def readEntry (place : IO.FS.DirEntry) : IO (Option Entry) := do
  match ← place.path.symlinkMetadata.toBaseIO with
  | .error _ => return none
  | .ok metadata =>
    match metadata.type with
    | .file => return some (← readFile place)
    | .dir => return some (← readDirectory place)
    | .symlink => return some (← readLink place)
    | .other => return none

/-- The entries that have been read. -/
abbrev Survey := StateT (Std.HashMap Address Entry) IO

/-- What stands at an address. -/
def visit (address : Address) : Survey (Option Entry) := do
  match (← get)[address]? with
  | some entry => return some entry
  | none =>
    let entry ← readEntry (place address)
    if let some entry := entry then modify (·.insert address entry)
    return entry

/-- Visits what names lead to, with no more than some links on the way; gives the address if that is
a directory. -/
partial def visitAlong (links : Nat) (here : Address) : List String → Survey (Option Address)
  | [] => return some here
  | ".." :: rest => visitAlong links here.dropLast rest
  | name :: rest => do
    let next := here ++ [name]
    match ← visit next, links with
    | some (.link target), links + 1 => visitAlong links [] ((Path.parse target).parts ++ rest)
    | some (.directory _), _ => visitAlong links next rest
    | _, _ => return none

/-- Visits what is below a directory. -/
partial def visitBelow (directory : Address) : Survey Unit := do
  match ← (place directory).path.readDir.toBaseIO with
  | .error _ => return
  | .ok found =>
    for entry in found do
      let address := directory ++ [entry.fileName]
      match ← visit address with
      | some (.directory _) => visitBelow address
      | some (.link _) => discard (visitAlong FileSystem.linkLimit directory [entry.fileName])
      | _ => pure ()

/-- The file system of which nothing has been read. -/
def unread : IO FileSystem := do
  let current := (Path.parse (← IO.currentDir).toString).parts
  let home ← IO.getEnv "HOME"
  return ⟨[], current, home.toList.map ("", ·)⟩

/-- Visits what a request looks at. -/
def survey (fs : FileSystem) (request : Request) : Survey Unit := do
  let start (path : Path) : Survey (Option Address) :=
    visitAlong FileSystem.linkLimit [] (fs.absolute path).parts
  for path in request.paths fs do discard (start path)
  let named := { fs with entries := (← get).toList }
  for path in request.directories named do
    if let some directory ← start path then visitBelow directory

/-- The file system as far as arguments look at it. -/
def read (arguments : List String) : IO FileSystem := do
  let fs ← unread
  match Request.ofArguments arguments with
  | .error _ => return fs
  | .ok request =>
    let (_, entries) ← (survey fs request).run ∅
    return { fs with entries := entries.toList }

/-- Makes a change. -/
def make : FileSystem.Change → IO Unit
  | .removeFile address => IO.FS.removeFile (place address).path
  | .removeDirectory address => IO.FS.removeDir (place address).path
  | .makeDirectory address => IO.FS.createDir (place address).path
  | .write address bytes => IO.FS.writeBinFile (place address).path ⟨bytes.toArray⟩

/-- The time stamp of messages in a file. -/
def stamp : IO String := do
  return (← Std.Time.PlainDateTime.now).format "uuuu-MM-dd HH:mm:ss,SSS"

end Baseline.CommandLine

/-- Does what the arguments ask for. -/
def main (arguments : List String) : IO UInt32 := do
  let fs ← Baseline.CommandLine.read arguments
  match Baseline.CommandLine.execute fs (← Baseline.CommandLine.stamp) arguments with
  | .error crash =>
    IO.eprintln crash.message
    return 1
  | .ok outcome =>
    for change in fs.changes outcome.fs do Baseline.CommandLine.make change
    IO.print outcome.output
    IO.eprint outcome.errorOutput
    return outcome.status.toUInt32
