/-!
# Log records

What a run says about itself: messages with a level, on channels named below the program.
-/

namespace Baseline

/-- How much a message matters. -/
inductive Level where
  | debug
  | info
  | warning
  deriving DecidableEq, Repr

namespace Level

/-- The name of a level. -/
def name : Level → String
  | .debug => "DEBUG"
  | .info => "INFO"
  | .warning => "WARNING"

/-- The weight by which levels are compared. -/
def weight : Level → Nat
  | .debug => 10
  | .info => 20
  | .warning => 30

end Level

/-- The name of the program, and of the channel above all others. -/
def programName : String := "ruling"

/-- The name of a channel of the program. -/
def channelName : Option String → String
  | none | some "" => programName
  | some channel => programName ++ "." ++ channel

/-- One message. -/
structure LogRecord where
  level : Level
  channel : String
  message : String
  deriving DecidableEq, Repr

namespace LogRecord

/-- Whether a record is of a level or above it. -/
def isAtLeast (record : LogRecord) (level : Level) : Bool :=
  level.weight ≤ record.level.weight

end LogRecord

end Baseline
