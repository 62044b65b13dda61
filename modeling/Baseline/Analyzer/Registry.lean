import Baseline.Analyzer.DataSyntax
import Baseline.Run
import Baseline.Text.Lowercase

/-!
# Registry of analyzers

Plug-ins offer analyzers under the names of families. What a plug-in offers is an analyzer, a kind
of analyzer, or a function that makes one; it replaces the built-in analyzer of its family, and is
replaced by what the caller gives.
-/

namespace Baseline.Registry

/-- An analyzer of either kind, or of both. -/
inductive AnyAnalyzer where
  | batch (analyzer : BatchAnalyzer)
  | file (analyzer : FileAnalyzer)
  | both (batch : BatchAnalyzer) (file : FileAnalyzer)

namespace AnyAnalyzer

/-- The analyzer as one that looks at all scripts at once, if it is one. -/
def batch? : AnyAnalyzer → Option BatchAnalyzer
  | .batch analyzer | .both analyzer _ => some analyzer
  | .file _ => none

/-- The analyzer as one that looks at one file, if it is one. -/
def file? : AnyAnalyzer → Option FileAnalyzer
  | .file analyzer | .both _ analyzer => some analyzer
  | .batch _ => none

/-- The analyzer as one of the kind that a family has, if it is of that kind. -/
def as? (analyzer : AnyAnalyzer) : Family → Option AnyAnalyzer
  | .script => analyzer.batch?.map .batch
  | .markup | .data => analyzer.file?.map .file

end AnyAnalyzer

/-- What comes of a call: a value, which may be an analyzer, or a failure. -/
abbrev Call := Except String (Option AnyAnalyzer)

/-- What a plug-in or a caller offers. -/
inductive Offer where
  /-- An analyzer. -/
  | instance (analyzer : AnyAnalyzer)
  /-- An analyzer that can be called as a function is. -/
  | callable (analyzer : AnyAnalyzer) (call : Call)
  /-- A kind of analyzer, of which one can be made. -/
  | kind (analyzer : AnyAnalyzer)
  /-- A kind of analyzer of which none can be made: it leaves something open, or its making fails. -/
  | abstractKind (text : String)
  /-- A function that makes a value, which may be an analyzer. -/
  | factory (made : Option AnyAnalyzer)
  /-- A function that fails. -/
  | failingFactory (text : String)
  /-- A value of another kind. -/
  | other

/-- Why a plug-in is not loaded. -/
inductive LoadFailure where
  /-- Loading fails for a reason, or with a failure that does not tell the reason. -/
  | failed (reason : Except Escape String)
  /-- Loading asks for the end of the program. -/
  | exit

instance : Coe String LoadFailure := ⟨fun reason => .failed (.ok reason)⟩

/-- A plug-in: the name it is listed under, and what loading it gives, which may fail. -/
structure Plugin where
  name : String
  load : Except LoadFailure Offer

/-- Why no analyzers are given. -/
inductive Error where
  | unknownFamily (name : String)
  | loading (name reason : String)
  /-- A failure to load a plug-in does not tell its reason. -/
  | unspoken (escape : Escape)
  | unsuitable (family : Family)
  /-- A function that should make an analyzer fails. -/
  | factory (text : String)
  /-- A plug-in asks for the end of the program. -/
  | exit
  deriving DecidableEq, Repr

/-- Whether an error is reported as one of the configuration. -/
def Error.isReported : Error → Bool
  | .unspoken _ | .factory _ | .exit => false
  | _ => true

/-- The kind of analyzer that a family has. -/
def kindOf : Family → String
  | .script => "BatchAnalyzer"
  | _ => "FileAnalyzer"

/-- The wording of an error. -/
def Error.message : Error → String
  | .unknownFamily name => s!"Unknown analyzer family in entry point '{name}'"
  | .loading name reason => s!"Failed to load analyzer entry point '{name}': {reason}"
  | .unspoken escape => escape.message
  | .unsuitable family =>
    s!"Analyzer for the {family.name} family must be a {kindOf family} subclass or factory"
  | .factory text => text
  | .exit => ""

/-- Whether an analyzer is of the kind that a family has. -/
def suits (family : Family) (analyzer : AnyAnalyzer) : Bool := (analyzer.as? family).isSome

/-- The analyzer that a call gives for a family. -/
def called (family : Family) : Call → Except Error AnyAnalyzer
  | .ok (some analyzer) =>
    if suits family analyzer then .ok analyzer else .error (.unsuitable family)
  | .ok none => .error (.unsuitable family)
  | .error text => .error (.factory text)

/-- The analyzer that an offer gives for a family. What can be called is called unless it suits the
family itself. A kind of analyzer that does not suit the family makes one that does not suit it
either. -/
def accept (family : Family) : Offer → Except Error AnyAnalyzer
  | .instance analyzer | .kind analyzer =>
    if suits family analyzer then .ok analyzer else .error (.unsuitable family)
  | .callable analyzer call =>
    if suits family analyzer then .ok analyzer else called family call
  | .factory made => called family (.ok made)
  | .abstractKind text | .failingFactory text => called family (.error text)
  | .other => .error (.unsuitable family)

/-- The analyzers with the one of a family replaced. -/
def assign (analyzers : AnalyzerSet) (family : Family) (analyzer : AnyAnalyzer) : AnalyzerSet :=
  match family with
  | .script => { analyzers with script := analyzer.batch? }
  | .markup => { analyzers with markup := analyzer.file? }
  | .data => { analyzers with data := analyzer.file? }

/-- The analyzers with that of a family replaced by what is offered for it. -/
def install (analyzers : AnalyzerSet) (family : Family) (offer : Offer) :
    Except Error AnalyzerSet :=
  (accept family offer).map (assign analyzers family)

/-- The family of a plug-in and what it offers for it. -/
def Plugin.offered (plugin : Plugin) : Except Error (Family × Offer) :=
  match Family.ofName? (Text.lowered plugin.name) with
  | none => .error (.unknownFamily plugin.name)
  | some family =>
    match plugin.load with
    | .error (.failed (.ok reason)) => .error (.loading plugin.name reason)
    | .error (.failed (.error escape)) => .error (.unspoken escape)
    | .error .exit => .error .exit
    | .ok offer => .ok (family, offer)

/-- The analyzers after a plug-in. -/
def addPlugin (analyzers : AnalyzerSet) (plugin : Plugin) : Except Error AnalyzerSet := do
  let (family, offer) ← plugin.offered
  install analyzers family offer

/-- The analyzers that are always there. -/
def builtIn : AnalyzerSet := { data := some DataSyntax.analyzer }

/-- The analyzers of plug-ins, in their order, and then those that the caller gives. -/
def discover (plugins : List Plugin) (given : List (Family × Offer)) :
    Except Error AnalyzerSet := do
  let analyzers ← plugins.foldlM addPlugin builtIn
  given.foldlM (fun analyzers (family, offer) => install analyzers family offer) analyzers

end Baseline.Registry
