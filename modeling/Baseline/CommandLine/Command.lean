import Baseline.CommandLine.Argument

/-!
# Commands

A command reads its arguments from left to right: options may stand anywhere, one operand is taken
where it first appears, and what no option and no operand takes is left over. Letters of options may
stand together behind one dash.
-/

namespace Baseline.CommandLine

/-- What a command takes besides options: nothing, one argument, or the first argument that is no
option and everything after it. -/
inductive Operand where
  | none
  | one (name : String)
  | rest (name : String)
  deriving DecidableEq, Repr

/-- The name of an operand, which is required. -/
def Operand.name? : Operand → Option String
  | .none => Option.none
  | .one name => some name
  | .rest name => some name

/-- A command: the name it is called by, the texts that explain it, and what it takes. -/
structure Command where
  name : String
  usage : String
  help : String
  options : List OptionSpec
  operand : Operand
  deriving DecidableEq, Repr

/-- An option that is used, with its value if it takes one. -/
structure Use where
  option : OptionSpec
  value : Option String
  deriving DecidableEq, Repr

/-- Why a command does not go on: its help is asked for, or its arguments are refused. -/
inductive Stop where
  | help
  | problem (problem : Problem)
  deriving DecidableEq, Repr

/-- What a command has read: the options used, the arguments of its operand once there are any, and
what is left over. -/
structure Parsed where
  uses : List Use := []
  operand : Option (List String) := none
  extras : List String := []
  deriving DecidableEq, Repr

/-- What one argument with options gives: the options used, and the option at its end that takes the
next argument as its value. -/
structure Reading where
  uses : List Use := []
  awaiting : Option OptionSpec := none
  deriving DecidableEq, Repr

/-- The reading of an option with nothing after it in its argument. -/
def readAlone (spec : OptionSpec) : Reading :=
  if spec.takesValue then { awaiting := some spec } else { uses := [⟨spec, none⟩] }

/-- The use of an option with a value in the same argument. Two dashes are no value there. -/
def useWith (spec : OptionSpec) (value : String) : Use :=
  ⟨spec, if value == "--" then none else some value⟩

/-- The reading of an option whose letter has more characters after it: they are its value, or else
letters of options themselves. -/
def readLetters (options : List OptionSpec) (spec : OptionSpec) :
    List Char → Except Problem Reading
  | [] => .ok (readAlone spec)
  | letter :: text =>
    if spec.takesValue then .ok { uses := [useWith spec (String.ofList (letter :: text))] }
    else
      match optionNamed? options (String.ofList ['-', letter]) with
      | none => .error (.ignoredValue spec (String.ofList (letter :: text)))
      | some next =>
        (readLetters options next text).map fun reading =>
          { reading with uses := ⟨spec, none⟩ :: reading.uses }

/-- Whether a name is a letter behind one dash. -/
def isLetterName (name : String) : Bool := !"--".toList.isPrefixOf name.toList

/-- The reading of an option with a text in the same argument. -/
def readAttached (options : List OptionSpec) (name : String) (spec : OptionSpec) (text : String) :
    Except Problem Reading :=
  if spec.takesValue then .ok { uses := [useWith spec text] }
  else if isLetterName name && text != "" then readLetters options spec text.toList
  else .error (.ignoredValue spec text)

/-- The reading of an option as an argument names it. -/
def readMention (options : List OptionSpec) (mention : Mention) : Except Problem Reading :=
  match mention.attached with
  | none => .ok (readAlone mention.spec)
  | some text => readAttached options mention.name mention.spec text

/-- What has been read after one more argument with options. -/
def Parsed.add (parsed : Parsed) (reading : Reading) (value : Option Use) : Except Stop Parsed :=
  let uses := reading.uses ++ value.toList
  if uses.any (·.option.setting == .help) then .error .help
  else .ok { parsed with uses := parsed.uses ++ uses }

/-- What has been read with one more argument left over. -/
def Parsed.leave (parsed : Parsed) (s : String) : Parsed :=
  { parsed with extras := parsed.extras ++ [s] }

/-- What has been read with the operand taken. -/
def Parsed.take (parsed : Parsed) (arguments : List String) : Parsed :=
  { parsed with operand := some arguments }

namespace Command

/-- What has been read after the rest of the arguments. -/
def parseMarked (command : Command) (parsed : Parsed) :
    List (String × Mark) → Except Stop Parsed
  | [] => .ok parsed
  | (s, .unknown) :: rest => command.parseMarked (parsed.leave s) rest
  | (_, .option mention) :: rest =>
    match readMention command.options mention with
    | .error problem => .error (.problem problem)
    | .ok reading =>
      match reading.awaiting, rest with
      | none, rest =>
        match parsed.add reading none with
        | .error stop => .error stop
        | .ok parsed => command.parseMarked parsed rest
      | some waiting, (value, .operand) :: rest =>
        match parsed.add reading (some ⟨waiting, some value⟩) with
        | .error stop => .error stop
        | .ok parsed => command.parseMarked parsed rest
      | some waiting, _ => .error (.problem (.missingValue waiting))
  | (s, .operand) :: rest =>
    match parsed.operand, command.operand, rest with
    | none, .rest _, rest => .ok (parsed.take (s :: rest.map Prod.fst))
    | none, .one _, (_, .separator) :: rest => command.parseMarked (parsed.take [s]) rest
    | none, .one _, rest => command.parseMarked (parsed.take [s]) rest
    | _, _, rest => command.parseMarked (parsed.leave s) rest
  | (s, .separator) :: rest =>
    match parsed.operand, command.operand, rest with
    | none, .rest _, (value, .operand) :: rest =>
      .ok (parsed.take (s :: value :: rest.map Prod.fst))
    | none, .one _, (value, .operand) :: rest => command.parseMarked (parsed.take [value]) rest
    | _, _, rest => command.parseMarked (parsed.leave s) rest

/-- What a command reads in its arguments. -/
def parse (command : Command) (arguments : List String) : Except Stop Parsed := do
  let marked ← (marks command.options arguments).mapError .problem
  let parsed ← command.parseMarked {} marked
  match parsed.operand, command.operand.name? with
  | none, some name => .error (.problem (.missingOperand name))
  | _, _ => return parsed

end Command

end Baseline.CommandLine
