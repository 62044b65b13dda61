import Baseline.FileSystem.Access
import Baseline.Log

/-!
# Journals

A journal keeps messages in a file, a line for each, from the moment they are said. The file is
found once, when the journal is opened; if it is removed later, nothing takes its place.
-/

namespace Baseline

/-- A journal: the address of its file, the level below which messages are left out, and the time
stamp before each message. -/
structure Journal where
  address : Address
  level : Level
  stamp : String
  deriving DecidableEq, Repr

namespace Journal

/-- The line of a message. -/
def line (journal : Journal) (record : LogRecord) : String :=
  s!"{journal.stamp} {record.level.name} {record.channel}: {record.message}\n"

/-- The lines of the messages that are kept. -/
def lines (journal : Journal) (records : List LogRecord) : String :=
  String.join ((records.filter (·.isAtLeast journal.level)).map journal.line)

/-- The file system with a journal in the file that a path leads to, which is made if it is
missing. -/
def start (fs : FileSystem) (path : Path) (level : Level) (stamp : String) :
    Except FileError (FileSystem × Journal) :=
  match fs.append path [] with
  | .error e => .error e
  | .ok fs =>
    match fs.locate true path with
    | .error fault => .error (.fault fault path)
    | .ok place => .ok (fs, ⟨place.address, level, stamp⟩)

/-- Whether the file of a journal is there. -/
def isKept (journal : Journal) (fs : FileSystem) : Bool :=
  match fs.find? journal.address with
  | some (.file _ _) => true
  | _ => false

/-- The file system with messages at the end of a journal. -/
def write (journal : Journal) (fs : FileSystem) (records : List LogRecord) : FileSystem :=
  match fs.find? journal.address, journal.lines records with
  | _, "" => fs
  | some (.file before locked), lines =>
    fs.put journal.address (.file (before ++ Text.Utf8.encode lines.toList) locked)
  | _, _ => fs

/-- The file system after messages have been said, with or without a journal. -/
def after (journal : Option Journal) (fs : FileSystem) (records : List LogRecord) : FileSystem :=
  match journal with
  | none => fs
  | some journal => journal.write fs records

@[simp]
theorem after_none (fs : FileSystem) (records : List LogRecord) : after none fs records = fs := rfl

end Journal

end Baseline
