import Baseline.Analyzer.Basic
import Baseline.Analyzer.DataSyntax
import Baseline.Analyzer.Registry
import Baseline.CommandLine.Argument
import Baseline.CommandLine.Command
import Baseline.CommandLine.Places
import Baseline.CommandLine.Program
import Baseline.CommandLine.Request
import Baseline.Configuration
import Baseline.Discovery
import Baseline.Exclusion
import Baseline.Execution
import Baseline.Execution.Pool
import Baseline.FileSystem.Access
import Baseline.FileSystem.Basic
import Baseline.FileSystem.Change
import Baseline.FileSystem.Resolution
import Baseline.FileSystem.Walk
import Baseline.Glob.Rule
import Baseline.Glob.Wildcard
import Baseline.Journal
import Baseline.Json.Reading
import Baseline.Json.Writing
import Baseline.Keyed
import Baseline.Log
import Baseline.Main
import Baseline.Number.Binary64
import Baseline.Number.Power
import Baseline.Number.Quantity
import Baseline.Number.Reading
import Baseline.Number.Shortest
import Baseline.Path
import Baseline.Payload.Basic
import Baseline.Progress
import Baseline.Project
import Baseline.Proofs.Analyzer.DataSyntax
import Baseline.Proofs.Analyzer.Registry
import Baseline.Proofs.Configuration
import Baseline.Proofs.Configuration.Fields
import Baseline.Proofs.Configuration.Loading
import Baseline.Proofs.Configuration.Refusal
import Baseline.Proofs.Configuration.Shape
import Baseline.Proofs.Discovery.Additions
import Baseline.Proofs.Discovery.Collection
import Baseline.Proofs.Discovery.Growth
import Baseline.Proofs.Discovery.Invariant
import Baseline.Proofs.Discovery.Obstacles
import Baseline.Proofs.Discovery.Pass
import Baseline.Proofs.Discovery.Respelling
import Baseline.Proofs.Discovery.Roles
import Baseline.Proofs.Discovery.Settling
import Baseline.Proofs.Except
import Baseline.Proofs.Execution
import Baseline.Proofs.FileSystem.Alike
import Baseline.Proofs.FileSystem.Canonical
import Baseline.Proofs.FileSystem.Itinerary
import Baseline.Proofs.FileSystem.Making
import Baseline.Proofs.FileSystem.Plain
import Baseline.Proofs.FileSystem.Remaking
import Baseline.Proofs.FileSystem.Resolution
import Baseline.Proofs.FileSystem.Respelling
import Baseline.Proofs.FileSystem.Settling
import Baseline.Proofs.FileSystem.Tree
import Baseline.Proofs.FileSystem.Walk
import Baseline.Proofs.Glob.Gap
import Baseline.Proofs.Glob.IgnoredCase
import Baseline.Proofs.Glob.Inside
import Baseline.Proofs.Glob.Meaning
import Baseline.Proofs.Glob.Place
import Baseline.Proofs.Glob.Segment
import Baseline.Proofs.Glob.Survival
import Baseline.Proofs.Json.RoundTrip
import Baseline.Proofs.Json.Texts
import Baseline.Proofs.Keyed
import Baseline.Proofs.Number.Digits
import Baseline.Proofs.Progress
import Baseline.Proofs.Report.Answers
import Baseline.Proofs.Report.Cells
import Baseline.Proofs.Report.Degradation
import Baseline.Proofs.Report.FailureRoutes
import Baseline.Proofs.Report.Listing
import Baseline.Proofs.Report.Merge
import Baseline.Proofs.Report.Regrouping
import Baseline.Proofs.Report.Spelling
import Baseline.Proofs.Report.WireFormat
import Baseline.Proofs.Results.Loading
import Baseline.Proofs.Results.Reordering
import Baseline.Proofs.Results.Repetition
import Baseline.Proofs.Results.Replacement
import Baseline.Proofs.Results.RoundTrip
import Baseline.Proofs.RuleList
import Baseline.Proofs.Run.Aggregation
import Baseline.Proofs.Run.Course
import Baseline.Proofs.Run.Dispatch
import Baseline.Proofs.Run.Failure
import Baseline.Proofs.Run.Frame
import Baseline.Proofs.Run.Repetition
import Baseline.Proofs.Run.Stages
import Baseline.Proofs.Source.Bundle
import Baseline.Proofs.Source.TypedScript
import Baseline.Proofs.Text.Blank
import Baseline.Proofs.Text.Lowercase
import Baseline.Proofs.Text.Order
import Baseline.Proofs.Text.Pieces
import Baseline.Proofs.Text.Utf8
import Baseline.Proofs.Yaml.Documents
import Baseline.Report.Basic
import Baseline.Report.Cells
import Baseline.Report.Coercion
import Baseline.Report.Listing
import Baseline.Report.Merge
import Baseline.Results
import Baseline.RuleList
import Baseline.Run
import Baseline.Source.Acceptance
import Baseline.Source.Basic
import Baseline.Source.Classification
import Baseline.Source.TypedScript
import Baseline.Text.Base64
import Baseline.Text.Blank
import Baseline.Text.Lowercase
import Baseline.Text.Newlines
import Baseline.Text.Order
import Baseline.Text.Pieces
import Baseline.Text.Property.Cased
import Baseline.Text.Property.DecimalDigit
import Baseline.Text.Property.Lower
import Baseline.Text.Property.Printable
import Baseline.Text.Property.Ranges
import Baseline.Text.Property.Word
import Baseline.Text.Quoted
import Baseline.Text.Utf8
import Baseline.Yaml.Construction
import Baseline.Yaml.Cursor
import Baseline.Yaml.Error
import Baseline.Yaml.Event
import Baseline.Yaml.Moment
import Baseline.Yaml.Node
import Baseline.Yaml.Scalar
import Baseline.Yaml.Tag
import Baseline.Yaml.Token.Basic
import Baseline.Yaml.Token.Property
import Baseline.Yaml.Token.Scalar
import Baseline.Yaml.Token.Stream
import Baseline.Yaml.Value
