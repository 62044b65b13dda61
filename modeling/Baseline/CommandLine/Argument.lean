import Baseline.Text.Pieces
import Baseline.Text.Property.DecimalDigit
import Baseline.Text.Quoted

/-!
# Arguments

What each argument is to a command: an option, perhaps with a text attached to its name, or an
operand. After an argument of two dashes everything is an operand. A long name may be cut short as
long as only one name starts that way.
-/

namespace Baseline.CommandLine

open Text

/-- What an option is for. -/
inductive Setting where
  | help
  | verbose
  | config
  | rules
  | logFile
  deriving DecidableEq, Repr

/-- An option: the names it goes by, one dash before a letter and two before a word, and whether it
takes a value. -/
structure OptionSpec where
  names : List String
  setting : Setting
  takesValue : Bool
  deriving DecidableEq, Repr

/-- The names of an option as messages show them. -/
def OptionSpec.display (spec : OptionSpec) : String := "/".intercalate spec.names

/-- An option as an argument names it: by which of its names, and with which text in the same
argument, if there is any after the name. -/
structure Mention where
  name : String
  spec : OptionSpec
  attached : Option String
  deriving DecidableEq, Repr

/-- What an argument is. -/
inductive Mark where
  | operand
  | separator
  | option (mention : Mention)
  | unknown
  deriving DecidableEq, Repr

/-- Why arguments are refused. -/
inductive Problem where
  | ambiguous (argument : String) (names : List String)
  | ignoredValue (option : OptionSpec) (value : String)
  | missingValue (option : OptionSpec)
  | missingOperand (name : String)
  | notChoice (operand value : String) (choices : List String)
  | unrecognized (arguments : List String)
  deriving DecidableEq, Repr

/-- The wording of a problem. -/
def Problem.message : Problem → String
  | .ambiguous argument names =>
    s!"ambiguous option: {argument} could match " ++ ", ".intercalate names
  | .ignoredValue option value =>
    s!"argument {option.display}: ignored explicit argument " ++ quoted value
  | .missingValue option => s!"argument {option.display}: expected one argument"
  | .missingOperand name => "the following arguments are required: " ++ name
  | .notChoice operand value choices =>
    s!"argument {operand}: invalid choice: " ++ quoted value ++ " (choose from " ++
      ", ".intercalate (choices.map quoted) ++ ")"
  | .unrecognized arguments => "unrecognized arguments: " ++ " ".intercalate arguments

/-- The names of options in order, each with its option. -/
def namesOf (options : List OptionSpec) : List (String × OptionSpec) :=
  options.flatMap fun spec => spec.names.map fun name => (name, spec)

/-- The option of a name. -/
def optionNamed? (options : List OptionSpec) (name : String) : Option OptionSpec :=
  (namesOf options).lookup name

/-- Whether a text is a number below zero, with or without a point; a line end may follow. -/
def isNegativeNumber (cs : List Char) : Bool :=
  let isDigit (c : Char) : Bool := (Property.digitValue? c).isSome
  let cs := if cs.getLast? == some '\n' then cs.dropLast else cs
  match cs with
  | '-' :: number =>
    match number.dropWhile isDigit with
    | [] => !number.isEmpty
    | '.' :: fraction => !fraction.isEmpty && fraction.all isDigit
    | _ => false
  | _ => false

/-- An argument cut at its first equals sign, with the text after the sign if there is one. -/
def cutAtEquals (s : String) : String × Option String :=
  match s.toList.dropWhile (· != '=') with
  | [] => (s, none)
  | _ :: text => (String.ofList (s.toList.takeWhile (· != '=')), some (String.ofList text))

/-- The options that an argument can stand for: a long name cut short, or a letter and the text
after it. -/
def candidates (options : List OptionSpec) (s : String) : List Mention :=
  match s.toList with
  | '-' :: '-' :: _ =>
    let (beginning, attached) := cutAtEquals s
    (namesOf options).filterMap fun (name, spec) =>
      if beginning.toList.isPrefixOf name.toList then some ⟨name, spec, attached⟩ else none
  | '-' :: letter :: text =>
    (namesOf options).filterMap fun (name, spec) =>
      if name.toList == ['-', letter] then some ⟨name, spec, some (String.ofList text)⟩ else none
  | _ => []

/-- What an argument is that starts with a dash and is not the name of an option. -/
def markOfDashed (options : List OptionSpec) (s : String) : Except Problem Mark :=
  match candidates options s with
  | [mention] => .ok (.option mention)
  | [] =>
    if isNegativeNumber s.toList || s.toList.contains ' ' then .ok .operand else .ok .unknown
  | several => .error (.ambiguous s (several.map Mention.name))

/-- What an argument is, two dashes aside. -/
def markOf (options : List OptionSpec) (s : String) : Except Problem Mark :=
  match s.toList with
  | '-' :: _ :: _ =>
    match optionNamed? options s, cutAtEquals s with
    | some spec, _ => .ok (.option ⟨s, spec, none⟩)
    | none, (name, some text) =>
      match optionNamed? options name with
      | some spec => .ok (.option ⟨name, spec, some text⟩)
      | none => markOfDashed options s
    | none, _ => markOfDashed options s
  | _ => .ok .operand

/-- What each argument is. -/
def marks (options : List OptionSpec) : List String → Except Problem (List (String × Mark))
  | [] => .ok []
  | s :: rest =>
    if s == "--" then .ok ((s, .separator) :: rest.map fun s => (s, .operand))
    else do
      let mark ← markOf options s
      let rest ← marks options rest
      return (s, mark) :: rest

end Baseline.CommandLine
