import Baseline.FileSystem.Walk
import Baseline.Json.Reading
import Baseline.Json.Writing
import Baseline.Log
import Baseline.Text.Utf8

/-!
# Result directories

The listing of a project is kept in a directory of its own, one file for each language and rule. A
new listing takes the place of the whole directory.
-/

namespace Baseline.Results

open FileSystem (TextError)

/-- The channel of messages about results. -/
def channel : String := channelName (some "results")

/-- The directory of a project's results. -/
def projectDirectory (directory : Path) (project : String) : Path := directory.below project

/-- The text of the file that lists one rule. -/
def fileText (files : FileLines) : String :=
  String.ofList (Json.writeFileLines files ++ ['\n'])

/-- The path of the file that lists one rule. -/
def filePath (target : Path) (name : String) : Path := target.below (name ++ ".json")

/-- What writing gives: the file system, the paths that were written, and the error that stopped
it. -/
structure Written where
  fs : FileSystem
  paths : List Path
  failure : Option FileError

/-- Whether every line number of some files can be shown. -/
def isShowable (files : FileLines) : Bool :=
  files.all fun (_, lines) => lines.all Number.isShowable

/-- Writes the file that lists one rule. A line number that cannot be shown is met before the file is
opened. -/
def writeFile (fs : FileSystem) (target : Path) (name : String) (files : FileLines) :
    Except FileError FileSystem :=
  if isShowable files then
    fs.write (filePath target name) (Text.Utf8.encode (fileText files).toList)
  else .error .longNumber

/-- Writes the files of a listing in order. -/
def writeFiles (target : Path) (written : Written) : Listing → Written
  | [] => written
  | (name, files) :: rest =>
    match writeFile written.fs target name files with
    | .error e => { written with failure := some e }
    | .ok fs => writeFiles target ⟨fs, written.paths ++ [filePath target name], none⟩ rest

/-- The file system with the directory removed that a path leads to, if it leads anywhere. -/
def clear (fs : FileSystem) (target : Path) : FileSystem × Option FileError :=
  match fs.pathExists target with
  | .error e => (fs, some e)
  | .ok false => (fs, none)
  | .ok true => fs.removeTree target

/-- Puts a listing in the place of what the results directory of a project holds. -/
def replace (fs : FileSystem) (target : Path) (listing : Listing) : Written :=
  match clear fs target with
  | (fs, some e) => ⟨fs, [], some e⟩
  | (fs, none) =>
    if FileSystem.hasNull target then ⟨fs, [], some .nullCharacter⟩
    else
      match fs.makeDirectories (target.parts.length + 1) target with
      | (fs, some e) => ⟨fs, [], some e⟩
      | (fs, none) => writeFiles target ⟨fs, [], none⟩ listing

/-- The listing of a report on a project that lies in a directory. -/
def listingOf (fs : FileSystem) (project : String) (directory : Path) (report : Report) : Listing :=
  Listing.ofReport project (unixPath (fs.absolute directory).text) report

/-- Writes the results of a project. -/
def write (fs : FileSystem) (results : Path) (project : String) (directory : Path)
    (report : Report) : Written :=
  replace fs (projectDirectory results project) (listingOf fs project directory report)

/-- The message about results that were written. -/
def message (results : Path) (project : String) (paths : List Path) : LogRecord :=
  ⟨.info, channel, s!"Wrote {paths.length} rule file(s) for {project} to " ++
    (projectDirectory results project).text⟩

/-- Why results cannot be loaded. -/
inductive LoadError where
  | text (error : TextError)
  | json (error : Json.Error) (text : String)
  | file (error : FileError)

/-- The integers of a list, if all its items are integers. -/
def lines? (items : List Payload) : Option (List Int) :=
  items.mapM fun item =>
    match item with
    | .int n => some n
    | _ => none

/-- The entries of a map that are lists of line numbers. -/
def fileLinesOf (entries : List (String × Payload)) : FileLines :=
  entries.filterMap fun (key, value) =>
    match value with
    | .list items => (lines? items).map fun lines => (key, lines)
    | _ => none

/-- The file lines that a file holds, if it holds an object. -/
def loadFile (fs : FileSystem) (path : Path) : Except LoadError (Option FileLines) :=
  match fs.readText path with
  | .error e => .error (.text e)
  | .ok text =>
    match Json.read text with
    | .error e => .error (.json e text)
    | .ok (.map entries) => .ok (some (fileLinesOf entries))
    | .ok _ => .ok none

/-- The listing with the file lines of a name put: in its place if it is there, else at the end. -/
def putName (listing : Listing) (name : String) (files : FileLines) : Listing :=
  if listing.any (·.1 == name) then
    listing.map fun entry => if entry.1 == name then (name, files) else entry
  else listing ++ [(name, files)]

/-- The listing with those of some files put. -/
def loadFiles (fs : FileSystem) (listing : Listing) : List Path → Except LoadError Listing
  | [] => .ok listing
  | path :: rest =>
    match loadFile fs path with
    | .error e => .error e
    | .ok none => loadFiles fs listing rest
    | .ok (some files) => loadFiles fs (putName listing path.stem files) rest

/-- The paths in a directory that end like the files of a listing; none if it cannot be listed. -/
def resultFiles (fs : FileSystem) (directory : Path) : Except FileError (List Path) :=
  match fs.isDirectory directory with
  | .error e => .error e
  | .ok false => .ok []
  | .ok true =>
    match fs.list directory with
    | .error _ => .ok []
    | .ok names =>
      .ok ((names.filter fun name => ".json".toList.isSuffixOf name.toList).map directory.child)

/-- The listing that a directory holds. -/
def load (fs : FileSystem) (directory : Path) : Except LoadError Listing :=
  match resultFiles fs directory with
  | .error e => .error (.file e)
  | .ok paths => loadFiles fs [] paths

end Baseline.Results
