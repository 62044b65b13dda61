import Baseline.FileSystem.Resolution
import Baseline.Text.Newlines
import Baseline.Text.Utf8

/-!
# Reading and changing files

Files are read as bytes or as text, directories are listed, and files and directories are written,
made and removed. An operation that fails part of the way leaves what it has done.
-/

namespace Baseline.FileSystem

/-- The bytes of the file that a path leads to. -/
def read (fs : FileSystem) (path : Path) : Except FileError (List UInt8) :=
  if hasNull path then .error .nullCharacter
  else
    match fs.locate true path with
    | .error fault => .error (.fault fault path)
    | .ok ⟨_, none⟩ => .error (.fault .missing path)
    | .ok ⟨_, some (.file bytes false)⟩ => .ok bytes
    | .ok ⟨_, some (.file _ true)⟩ => .error (.fault .denied path)
    | .ok ⟨_, some _⟩ => .error (.fault .isDirectory path)

/-- Why a text file has no text. -/
inductive TextError where
  | file (error : FileError)
  | encoding (malformed : Text.Utf8.Malformed)
  deriving DecidableEq, Repr

/-- The wording of an error. -/
def TextError.message : TextError → String
  | .file error => error.message
  | .encoding malformed => malformed.message

/-- The text of bytes, with its line ends unified. -/
def textOf (bytes : List UInt8) : Except Text.Utf8.Malformed String :=
  (Text.Utf8.decode bytes).map fun cs => String.ofList (Text.unifyNewlines cs)

/-- The text of bytes, ill-formed parts replaced, with its line ends unified. -/
def lenientTextOf (bytes : List UInt8) : String :=
  String.ofList (Text.unifyNewlines (Text.Utf8.decodeReplacing bytes))

/-- The text of the file that a path leads to. -/
def readText (fs : FileSystem) (path : Path) : Except TextError String :=
  match fs.read path with
  | .error e => .error (.file e)
  | .ok bytes => (textOf bytes).mapError .encoding

/-- The names in the directory that a path leads to, in order. -/
def list (fs : FileSystem) (path : Path) : Except FileFault (List String) :=
  match fs.locate true path with
  | .error fault => .error fault
  | .ok ⟨_, none⟩ => .error .missing
  | .ok ⟨address, some (.directory false)⟩ => .ok (fs.names address)
  | .ok ⟨_, some (.directory true)⟩ => .error .denied
  | .ok ⟨_, some _⟩ => .error .notDirectory

/-- The file system with a file of these bytes where a path leads. A missing file is made, in a
directory that must be there. -/
def write (fs : FileSystem) (path : Path) (bytes : List UInt8) : Except FileError FileSystem :=
  if hasNull path then .error .nullCharacter
  else
    match fs.locate true path with
    | .error fault => .error (.fault fault path)
    | .ok ⟨address, none⟩ => .ok (fs.put address (.file bytes false))
    | .ok ⟨address, some (.file _ locked)⟩ => .ok (fs.put address (.file bytes locked))
    | .ok ⟨_, some _⟩ => .error (.fault .isDirectory path)

/-- The file system with bytes added at the end of the file that a path leads to. A missing file is
made, in a directory that must be there. -/
def append (fs : FileSystem) (path : Path) (bytes : List UInt8) : Except FileError FileSystem :=
  if hasNull path then .error .nullCharacter
  else
    match fs.locate true path with
    | .error fault => .error (.fault fault path)
    | .ok ⟨address, none⟩ => .ok (fs.put address (.file bytes false))
    | .ok ⟨address, some (.file before locked)⟩ =>
      .ok (fs.put address (.file (before ++ bytes) locked))
    | .ok ⟨_, some _⟩ => .error (.fault .isDirectory path)

/-- The file system with a new directory where a path leads. -/
def makeDirectory (fs : FileSystem) (path : Path) : Except FileFault FileSystem :=
  match fs.locate false path with
  | .error fault => .error fault
  | .ok ⟨address, none⟩ => .ok (fs.put address (.directory false))
  | .ok ⟨_, some _⟩ => .error .occupied

/-- The file system with a directory where a path leads and those above it, made where they are
missing; with the error if one stops that. -/
def makeDirectories (fs : FileSystem) : Nat → Path → FileSystem × Option FileError
  | 0, path => (fs, some (.fault .missing path))
  | fuel + 1, path =>
    let tolerant (fs : FileSystem) (fault : FileFault) : FileSystem × Option FileError :=
      match fs.isDirectory path with
      | .ok true => (fs, none)
      | _ => (fs, some (.fault fault path))
    match fs.makeDirectory path with
    | .ok made => (made, none)
    | .error .missing =>
      if path.parts.isEmpty then (fs, some (.fault .missing path))
      else
        match fs.makeDirectories fuel path.parent with
        | (fs, some e) => (fs, some e)
        | (fs, none) =>
          match fs.makeDirectory path with
          | .ok made => (made, none)
          | .error fault => tolerant fs fault
    | .error fault => tolerant fs fault

/-- Removes entries of a directory one after the other; directories are emptied before. A directory
in which that stops ends the removal. -/
def removeEach (empty : FileSystem → Address → FileSystem × Option Address) (directory : Address) :
    FileSystem → List String → FileSystem × Option Address
  | fs, [] => (fs, none)
  | fs, name :: names =>
    let child := directory ++ [name]
    match fs.find? child with
    | some (.directory _) =>
      match empty fs child with
      | (fs, some stop) => (fs, some stop)
      | (fs, none) => removeEach empty directory (fs.erase child) names
    | _ => removeEach empty directory (fs.erase child) names

/-- Removes what is below a directory, up to the first directory that cannot be read, which is
returned; at most `fuel` levels are entered. -/
def empty : Nat → FileSystem → Address → FileSystem × Option Address
  | 0, fs, _ => (fs, none)
  | fuel + 1, fs, directory =>
    match fs.find? directory with
    | some (.directory true) => (fs, some directory)
    | _ => removeEach (empty fuel) directory fs (fs.children directory)

/-- The length of the longest address. -/
def depth (fs : FileSystem) : Nat :=
  fs.entries.foldl (fun longest (address, _) => max longest address.length) 0

/-- The path by which a directory that is met while another one is emptied is reported: a directory
below is opened by its name. -/
def stopPath (path : Path) (address stop : Address) : Path :=
  if stop == address then path else ⟨.none, stop.getLast?.toList⟩

/-- The file system without the directory that a path names and all that is below it; with the error
if one stops that. What has been removed before a directory that cannot be read stays removed. A
path that ends in two dots no longer leads anywhere once what is below it is gone. -/
def removeTree (fs : FileSystem) (path : Path) : FileSystem × Option FileError :=
  match fs.locate false path with
  | .error fault => (fs, some (.fault fault path))
  | .ok ⟨_, none⟩ => (fs, some (.fault .missing path))
  | .ok ⟨address, some (.directory _)⟩ =>
    match empty (fs.depth + 1) fs address with
    | (left, some stop) => (left, some (.fault .denied (stopPath path address stop)))
    | (emptied, none) =>
      match emptied.locate false path with
      | .error fault => (emptied, some (.fault fault path))
      | .ok _ =>
        if path.parts.getLast? == some ".." then (emptied, some (.fault .notEmpty path))
        else (emptied.erase address, none)
  | .ok ⟨_, some (.file _ _)⟩ => (fs, some (.removal .notDirectory path))
  | .ok ⟨_, some (.link _)⟩ =>
    match fs.locate true path with
    | .error fault => (fs, some (.fault fault path))
    | .ok ⟨_, none⟩ => (fs, some (.fault .missing path))
    | .ok _ => (fs, some .removalOfLink)

end Baseline.FileSystem
