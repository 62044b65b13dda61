import Baseline.FileSystem.Access

/-!
# Walks through directories

A walk lists the files of a directory in order, then walks through its subdirectories in order. It
enters no symbolic link to a directory. It stops at a directory that cannot be listed, and at a
symbolic link of which it cannot be told whether it leads to a file.
-/

namespace Baseline.FileSystem

/-- What stops a walk. -/
inductive Stop where
  /-- A directory that cannot be listed. -/
  | unlisted (directory : Path) (fault : FileFault)
  /-- A symbolic link that cannot be followed. -/
  | unfollowed (error : FileError)
  deriving DecidableEq, Repr

/-- The files that a walk meets up to what stops it, if anything does. -/
structure Walk where
  files : List Path
  stop : Option Stop
  deriving DecidableEq, Repr

namespace Walk

/-- A walk followed by another one, unless something stopped the first. -/
def append (first second : Walk) : Walk :=
  match first.stop with
  | some _ => first
  | none => ⟨first.files ++ second.files, second.stop⟩

/-- The walk that meets some files and is not stopped. -/
def ofFiles (files : List Path) : Walk := ⟨files, none⟩

end Walk

/-- Whether a path surely leads to a directory. -/
def leadsToDirectory (fs : FileSystem) (path : Path) : Bool :=
  match fs.isDirectory path with
  | .ok found => found
  | .error _ => false

/-- Whether a path surely leads to a file. -/
def leadsToFile (fs : FileSystem) (path : Path) : Bool :=
  match fs.isFile path with
  | .ok found => found
  | .error _ => false

/-- The error of following a symbolic link, if it is one that leaves open what the link leads to. -/
def linkError? (fs : FileSystem) (path : Path) : Option FileError :=
  match fs.isLink path, fs.isFile path with
  | true, .error e => some e
  | _, _ => none

/-- The walk along the entries of a directory, which meets the files among them. -/
def walkAlong (fs : FileSystem) : List Path → Walk
  | [] => .ofFiles []
  | path :: rest =>
    match fs.linkError? path with
    | some e => ⟨[], some (.unfollowed e)⟩
    | none =>
      (Walk.ofFiles (if fs.leadsToFile path then [path] else [])).append (fs.walkAlong rest)

/-- The walk through a directory, at most `fuel` directories deep. -/
def walkFrom (fs : FileSystem) : Nat → Path → Walk
  | 0, _ => .ofFiles []
  | fuel + 1, directory =>
    match fs.list directory with
    | .error fault => ⟨[], some (.unlisted directory fault)⟩
    | .ok names =>
      let paths := names.map directory.child
      let subdirectories := paths.filter fun path => fs.leadsToDirectory path && !fs.isLink path
      subdirectories.foldl (fun walk path => walk.append (fs.walkFrom fuel path))
        (fs.walkAlong paths)

/-- The walk through a directory. -/
def walk (fs : FileSystem) (directory : Path) : Walk :=
  fs.walkFrom (fs.entries.length + 1) directory

end Baseline.FileSystem
