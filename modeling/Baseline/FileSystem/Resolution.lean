import Baseline.FileSystem.Basic

/-!
# Resolution of paths

A path is followed name by name from the root or the current directory. Two dots lead to the
directory above the one that has been reached, and a symbolic link to its target; only so many links
are followed.
-/

namespace Baseline.FileSystem

/-- The address a path leads to, and what stands there. -/
structure Place where
  address : Address
  entry : Option Entry
  deriving DecidableEq, Repr

/-- The most bytes of a name. -/
def nameLimit : Nat := 255

/-- The most symbolic links that are followed on the way. -/
def linkLimit : Nat := 40

/-- The address at which a path starts. -/
def startOf (fs : FileSystem) (path : Path) : Address :=
  if path.isAbsolute then [] else fs.current

/-- The names along which the target of a link is followed. A target that ends in a slash, or in a dot
after one, must lead to a directory, which the dot at the end stands for. -/
def namesOfTarget (target : String) : List String :=
  let names := (Path.parse target).parts
  match target.toList.reverse with
  | '/' :: _ => names ++ ["."]
  | '.' :: '/' :: _ => names ++ ["."]
  | _ => names

/-- Follows names from a directory; `links` more links may be followed, at most `fuel` steps are
taken. A link at the end is followed only if `last` says so. -/
def follow (fs : FileSystem) (last : Bool) (links : Nat) :
    Nat → Address → List String → Except FileFault Place
  | 0, _, _ => .error .tooManyLinks
  | _, here, [] => .ok ⟨here, fs.find? here⟩
  | fuel + 1, here, ".." :: rest => fs.follow last links fuel here.dropLast rest
  | fuel + 1, here, "." :: rest => fs.follow last links fuel here rest
  | fuel + 1, here, name :: rest =>
    if nameLimit < name.utf8ByteSize then .error .nameTooLong
    else
      let next := here ++ [name]
      match fs.find? next with
      | none => if rest.isEmpty then .ok ⟨next, none⟩ else .error .missing
      | some (.directory locked) =>
        if rest.isEmpty then .ok ⟨next, some (.directory locked)⟩
        else fs.follow last links fuel next rest
      | some (.file bytes locked) =>
        if rest.isEmpty then .ok ⟨next, some (.file bytes locked)⟩ else .error .notDirectory
      | some (.link target) =>
        if rest.isEmpty && !last then .ok ⟨next, some (.link target)⟩
        else if target == "" then .error .missing
        else
          match links with
          | 0 => .error .tooManyLinks
          | links + 1 =>
            let start := if (Path.parse target).isAbsolute then [] else here
            fs.follow last links fuel start (namesOfTarget target ++ rest)

/-- The number of steps that suffice for a path: its names, and those of a target for each link. -/
def stepLimit (fs : FileSystem) (path : Path) : Nat :=
  let longest := fs.entries.foldl (fun longest (_, entry) =>
    match entry with
    | .link target => max longest target.length
    | _ => longest) 0
  path.parts.length + (linkLimit + 1) * (longest + 1) + 1

/-- The place a path leads to; a link at its end is followed only if `last` says so. -/
def locate (fs : FileSystem) (last : Bool) (path : Path) : Except FileFault Place :=
  fs.follow last linkLimit (fs.stepLimit path) (fs.startOf path) path.parts

/-- Whether a path has the null character, which no name has. -/
def hasNull (path : Path) : Bool :=
  path.parts.any fun part => part.toList.contains '\x00'

/-- What a path leads to, if anything. -/
def target? (fs : FileSystem) (path : Path) : Except FileError (Option Entry) :=
  if hasNull path then .ok none
  else
    match fs.locate true path with
    | .ok place => .ok place.entry
    | .error fault => if fault.saysAbsent then .ok none else .error (.fault fault path)

/-- Whether a path leads to something. -/
def pathExists (fs : FileSystem) (path : Path) : Except FileError Bool :=
  (fs.target? path).map Option.isSome

/-- Whether a path leads to a directory. -/
def isDirectory (fs : FileSystem) (path : Path) : Except FileError Bool :=
  (fs.target? path).map fun entry =>
    match entry with
    | some (.directory _) => true
    | _ => false

/-- Whether a path leads to a file. -/
def isFile (fs : FileSystem) (path : Path) : Except FileError Bool :=
  (fs.target? path).map fun entry =>
    match entry with
    | some (.file _ _) => true
    | _ => false

/-- Whether a path names a symbolic link. -/
def isLink (fs : FileSystem) (path : Path) : Bool :=
  match fs.locate false path with
  | .ok ⟨_, some (.link _)⟩ => true
  | _ => false

/-- A path from the root, spelled by way of the current directory if it is relative. -/
def absolute (fs : FileSystem) (path : Path) : Path :=
  (Path.mk .single fs.current).join path

/-- A path with two dots taken as the directory before them, whatever is there. -/
def collapse (path : Path) : Path :=
  ⟨path.root, path.parts.foldl (fun parts part =>
    if part == ".." then parts.dropLast else parts ++ [part]) []⟩

/-- The state of resolving links: what the links that were met lead to, once that is known. -/
abbrev SeenLinks := List (Path × Option Path)

/-- Resolves the links on the way along names from a path that has none, and tells whether no link
leads back to itself. Names that lead nowhere stay as they are. -/
def resolveFrom (fs : FileSystem) : Nat → SeenLinks → Path → List String → Path × Bool × SeenLinks
  | 0, seen, here, rest => (⟨here.root, here.parts ++ rest⟩, false, seen)
  | _, seen, here, [] => (here, true, seen)
  | fuel + 1, seen, here, ".." :: rest => fs.resolveFrom fuel seen here.parent rest
  | fuel + 1, seen, here, name :: rest =>
    let next := here.child name
    match fs.locate false next with
    | .ok ⟨_, some (.link target)⟩ =>
      match seen.lookup next with
      | some (some resolved) => fs.resolveFrom fuel seen resolved rest
      | some none => (⟨next.root, next.parts ++ rest⟩, false, seen)
      | none =>
        let path := Path.parse target
        let base := if path.isAbsolute then Path.mk .single [] else here
        let (resolved, complete, seen) :=
          fs.resolveFrom fuel ((next, none) :: seen) base path.parts
        if complete then fs.resolveFrom fuel ((next, some resolved) :: seen) resolved rest
        else (⟨resolved.root, resolved.parts ++ rest⟩, false, seen)
    | _ => fs.resolveFrom fuel seen next rest

/-- Why a path cannot be made absolute or resolved. -/
inductive PathError where
  /-- No home directory is known for the user that the path names. -/
  | noHome
  /-- A symbolic link leads back to itself. -/
  | loop (path : Path)
  | file (error : FileError)
  deriving DecidableEq, Repr

/-- The wording of an error. -/
def PathError.message : PathError → String
  | .noHome => "Could not determine home directory."
  | .loop path => "Symlink loop from " ++ Text.quoted path.text
  | .file error => error.message

/-- The path from the root without links and double dots that a path leads to, as far as it leads
anywhere. -/
def resolve (fs : FileSystem) (path : Path) : Except PathError Path :=
  if hasNull path then .error (.file .nullCharacter)
  else
    let whole := fs.absolute path
    let fuel := fs.stepLimit path + whole.parts.length * (fs.entries.length + 1) + 1
    let start : Path := ⟨.single, []⟩
    let (resolved, _, _) := fs.resolveFrom fuel [] start whole.parts
    let resolved := collapse resolved
    match fs.locate true resolved with
    | .error .tooManyLinks => .error (.loop resolved)
    | _ => .ok resolved

/-- The path with the home directory of a user in place of a tilde and the user's name. -/
def expandHome (fs : FileSystem) (path : Path) : Except PathError Path :=
  match path.root, path.parts with
  | .none, first :: rest =>
    match first.toList with
    | '~' :: user =>
      match fs.homes.lookup (String.ofList user) with
      | some home =>
        let home := Path.parse home
        .ok ⟨home.root, home.parts ++ rest⟩
      | none => .error .noHome
    | _ => .ok path
  | _, _ => .ok path

/-- The path from the root that a path spells, with the home directory of a user in place of a tilde
if it is known. -/
def fromRoot (fs : FileSystem) (path : Path) : Path :=
  fs.absolute ((fs.expandHome path).toOption.getD path)

end Baseline.FileSystem
