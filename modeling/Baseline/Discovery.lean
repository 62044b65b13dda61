import Baseline.FileSystem.Walk
import Baseline.Journal
import Baseline.Project
import Baseline.Source.Acceptance
import Baseline.Source.Classification

/-!
# Discovery of source files

A pass walks through a directory and keeps the files that are not excluded, have a candidate
extension and, if they are scripts, are accepted. The files of a project are found by one pass over
the project and one over each of its test directories, which keep what was found before. A journal
among the files is read with what has been said up to then.
-/

namespace Baseline

/-- Why a pass is stopped. -/
inductive DiscoveryError where
  /-- A directory or file that cannot be read. -/
  | unreadable (path reason : String)
  /-- A root or a symbolic link that cannot be followed. -/
  | file (error : FileError)
  /-- A root in a home directory that is not known. -/
  | home (error : FileSystem.PathError)
  deriving DecidableEq, Repr

/-- The wording of an error. -/
def DiscoveryError.message : DiscoveryError → String
  | .unreadable path reason => s!"Cannot read {path}: {reason}"
  | .file error => error.message
  | .home error => error.message

/-- The error of a pass whose walk is stopped. -/
def DiscoveryError.ofStop : FileSystem.Stop → DiscoveryError
  | .unlisted directory fault => .unreadable (unixPath directory.text) fault.reason
  | .unfollowed error => .file error

/-- Whether an error is reported as one of the discovery. -/
def DiscoveryError.isReported : DiscoveryError → Bool
  | .unreadable _ _ => true
  | .file _ | .home _ => false

/-- Decides from its path and content whether a script is kept. -/
abbrev Acceptance := String → String → Bool

namespace Discovery

/-- The channel of discovery messages. -/
def channel : String := channelName (some "discovery")

/-- What a pass looks for, and the journal that keeps what it says. -/
structure Pass where
  exclusions : Exclusions
  role : Role
  accepts : Acceptance
  journal : Option Journal

/-- What a pass has found so far, on top of what was found before. -/
structure Found where
  files : ProjectFiles
  added : Nat := 0
  skipped : Nat := 0
  logs : List LogRecord := []

/-- What a pass gives: the files, what it says about itself, and the error that stopped it. -/
structure Outcome where
  files : ProjectFiles
  logs : List LogRecord
  failure : Option DiscoveryError

/-- The text of a file without a byte order mark at its start. -/
def contentOf (bytes : List UInt8) : String :=
  let text := FileSystem.lenientTextOf bytes
  match text.toList with
  | '\ufeff' :: rest => String.ofList rest
  | _ => text

/-- The reason of an error as it is reported. -/
def reasonOf : FileError → String
  | .fault cause _ => cause.reason
  | error => error.message

/-- The path below a root, of whose spelling the first `length` characters are dropped. -/
def relativePath (length : Nat) (absolute : String) : String :=
  String.ofList (absolute.toList.drop length)

/-- The number of characters of a root's spelling and the slash after it. -/
def rootLength (root : Path) : Nat :=
  (withoutFinalSlashes (unixPath root.text)).length + 1

/-- What has been found after a file with a candidate extension and a content. -/
def examine (pass : Pass) (found : Found) (absolute relative content : String) : Found :=
  match Source.classify absolute content with
  | none => { found with skipped := found.skipped + 1 }
  | some (language, family) =>
    if family == .script && !pass.accepts absolute content then
      { found with
        skipped := found.skipped + 1
        logs := found.logs ++
          [⟨.debug, channel, s!"Rejected generated or oversized file {relative}"⟩] }
    else if (found.files.group family).contains absolute then found
    else
      { found with
        files := found.files.add family absolute ⟨content, pass.role, language⟩
        added := found.added + 1 }

/-- What has been found after a file of a walk. -/
def visit (fs : FileSystem) (pass : Pass) (length : Nat) (found : Found) (path : Path) :
    Except DiscoveryError Found :=
  let absolute := unixPath path.text
  let relative := relativePath length absolute
  if pass.exclusions.excludes relative absolute then
    .ok { found with skipped := found.skipped + 1 }
  else if !Source.isCandidate absolute then .ok found
  else
    match (Journal.after pass.journal fs found.logs).read path with
    | .error e => .error (.unreadable absolute (reasonOf e))
    | .ok bytes => .ok (examine pass found absolute relative (contentOf bytes))

/-- What has been found after the files of a walk, and the error that stopped the pass. -/
def visitAll (fs : FileSystem) (pass : Pass) (length : Nat) (found : Found) :
    List Path → Found × Option DiscoveryError
  | [] => (found, none)
  | path :: rest =>
    match visit fs pass length found path with
    | .error e => (found, some e)
    | .ok found => visitAll fs pass length found rest

/-- The message about a pass that was not stopped. -/
def summary (pass : Pass) (root : Path) (found : Found) : LogRecord :=
  ⟨.debug, channel, s!"Discovered {found.added} {pass.role.tag} file(s) under {root.text} " ++
    s!"({found.skipped} skipped)"⟩

/-- A pass over a directory that is there. -/
def scan (fs : FileSystem) (pass : Pass) (root : Path) (files : ProjectFiles) : Outcome :=
  let walk := fs.walk root
  let (found, failure) := visitAll fs pass (rootLength root) { files } walk.files
  match failure.or (walk.stop.map .ofStop) with
  | some e => ⟨found.files, found.logs, some e⟩
  | none => ⟨found.files, found.logs ++ [summary pass root found], none⟩

/-- A pass over what a path from the root leads to, on top of what was found before. -/
def discoverAt (fs : FileSystem) (pass : Pass) (root : Path) (files : ProjectFiles) : Outcome :=
  let fail (e : DiscoveryError) : Outcome := ⟨files, [], some e⟩
  match fs.pathExists root, fs.isDirectory root with
  | .error e, _ => fail (.file e)
  | .ok false, _ => fail (.unreadable (unixPath root.text) "directory not found")
  | .ok true, .error e => fail (.file e)
  | .ok true, .ok false => fail (.unreadable (unixPath root.text) "not a directory")
  | .ok true, .ok true => scan fs pass root files

/-- A pass over a directory, on top of what was found before. -/
def discover (fs : FileSystem) (pass : Pass) (root : Path) (files : ProjectFiles) : Outcome :=
  match fs.expandHome root with
  | .error e => ⟨files, [], some (.home e)⟩
  | .ok expanded => discoverAt fs pass (fs.absolute expanded) files

/-- The passes over test directories, on top of an outcome, until one is stopped. -/
def collectTests (fs : FileSystem) (pass : Pass) (project : Path) (outcome : Outcome) :
    List String → Outcome
  | [] => outcome
  | directory :: rest =>
    match outcome.failure with
    | some _ => outcome
    | none =>
      let fsNow := Journal.after pass.journal fs outcome.logs
      let next := discover fsNow pass (project.below directory) outcome.files
      collectTests fs pass project { next with logs := outcome.logs ++ next.logs } rest

/-- The files of a project: one pass over its directory, and one over each test directory. -/
def collect (fs : FileSystem) (pass : Pass) (spec : ProjectSpec) (project : Path) : Outcome :=
  collectTests fs { pass with role := .test } project
    (discover fs { pass with role := .main } project ∅) spec.testDirs

end Discovery

end Baseline
