import BenchmarkOrchestration.Arguments.Expansion
import BenchmarkOrchestration.Arguments.Format
import BenchmarkOrchestration.Arguments.Mapping
import BenchmarkOrchestration.Arguments.Sequence
import BenchmarkOrchestration.CommandLine.Option
import BenchmarkOrchestration.CommandLine.Program
import BenchmarkOrchestration.CommandLine.Reading
import BenchmarkOrchestration.CommandLine.Report
import BenchmarkOrchestration.CommandLine.TextTable
import BenchmarkOrchestration.Commands.Clock
import BenchmarkOrchestration.Commands.Command
import BenchmarkOrchestration.Commands.Runner
import BenchmarkOrchestration.Document.ArgumentTable
import BenchmarkOrchestration.Document.DirectoryNames
import BenchmarkOrchestration.Document.Field
import BenchmarkOrchestration.Document.Legacy
import BenchmarkOrchestration.Document.Reader
import BenchmarkOrchestration.Document.Simplified
import BenchmarkOrchestration.Fault
import BenchmarkOrchestration.Files.Path
import BenchmarkOrchestration.Files.Selection
import BenchmarkOrchestration.Files.Tree
import BenchmarkOrchestration.Functors.Context
import BenchmarkOrchestration.Interpreter.Arithmetic
import BenchmarkOrchestration.Interpreter.Builtin
import BenchmarkOrchestration.Interpreter.Execution
import BenchmarkOrchestration.Interpreter.Fields
import BenchmarkOrchestration.Interpreter.Pattern
import BenchmarkOrchestration.Interpreter.Process
import BenchmarkOrchestration.Interpreter.Reader
import BenchmarkOrchestration.Interpreter.Regex
import BenchmarkOrchestration.Interpreter.Script
import BenchmarkOrchestration.Interpreter.State
import BenchmarkOrchestration.Interpreter.Tool.Call
import BenchmarkOrchestration.Interpreter.Tool.Condition
import BenchmarkOrchestration.Interpreter.Tool.Editing
import BenchmarkOrchestration.Interpreter.Tool.Entries
import BenchmarkOrchestration.Interpreter.Tool.Lines
import BenchmarkOrchestration.Interpreter.Tool.Printing
import BenchmarkOrchestration.Interpreter.Tool.Search
import BenchmarkOrchestration.Interpreter.Tool.Table
import BenchmarkOrchestration.Json.Reader
import BenchmarkOrchestration.Json.Record
import BenchmarkOrchestration.Json.Value
import BenchmarkOrchestration.Json.Writer
import BenchmarkOrchestration.Loading.Loader
import BenchmarkOrchestration.Main
import BenchmarkOrchestration.Model.Configuration
import BenchmarkOrchestration.Model.Format
import BenchmarkOrchestration.Model.Item
import BenchmarkOrchestration.Model.Query
import BenchmarkOrchestration.Model.Sameness
import BenchmarkOrchestration.Model.SortedTable
import BenchmarkOrchestration.Naming.Artifact
import BenchmarkOrchestration.Naming.FunctorName
import BenchmarkOrchestration.Number.Binary64
import BenchmarkOrchestration.Number.Decimal
import BenchmarkOrchestration.Orchestration.Analysis
import BenchmarkOrchestration.Orchestration.Build
import BenchmarkOrchestration.Orchestration.BuildOutcome
import BenchmarkOrchestration.Orchestration.DirectoryScope
import BenchmarkOrchestration.Orchestration.Facilities
import BenchmarkOrchestration.Orchestration.Failure
import BenchmarkOrchestration.Orchestration.RunMatrix
import BenchmarkOrchestration.Proofs.Arguments.Cartesian
import BenchmarkOrchestration.Proofs.Arguments.Creation
import BenchmarkOrchestration.Proofs.Arguments.Invocations
import BenchmarkOrchestration.Proofs.Arguments.Leaves
import BenchmarkOrchestration.Proofs.Arguments.Linear
import BenchmarkOrchestration.Proofs.Arguments.Odometer
import BenchmarkOrchestration.Proofs.Arguments.Volume
import BenchmarkOrchestration.Proofs.Arguments.WordSize
import BenchmarkOrchestration.Proofs.Commands.Readings
import BenchmarkOrchestration.Proofs.Commands.Timing
import BenchmarkOrchestration.Proofs.Document.AlikeTables
import BenchmarkOrchestration.Proofs.Document.Bracketing
import BenchmarkOrchestration.Proofs.Document.Detection
import BenchmarkOrchestration.Proofs.Document.DistinctKeys
import BenchmarkOrchestration.Proofs.Document.Fieldwise
import BenchmarkOrchestration.Proofs.Document.KeysOnce
import BenchmarkOrchestration.Proofs.Document.LegacyAgreement
import BenchmarkOrchestration.Proofs.Document.LegacyAnswers
import BenchmarkOrchestration.Proofs.Document.LegacyItem
import BenchmarkOrchestration.Proofs.Document.LegacyReading
import BenchmarkOrchestration.Proofs.Document.NamedDirectories
import BenchmarkOrchestration.Proofs.Document.NamedParameters
import BenchmarkOrchestration.Proofs.Document.Population
import BenchmarkOrchestration.Proofs.Document.Results
import BenchmarkOrchestration.Proofs.Document.SimplifiedReading
import BenchmarkOrchestration.Proofs.Files.Framing
import BenchmarkOrchestration.Proofs.Files.Rewriting
import BenchmarkOrchestration.Proofs.Files.Route
import BenchmarkOrchestration.Proofs.Json.Fields
import BenchmarkOrchestration.Proofs.Loading.Remembering
import BenchmarkOrchestration.Proofs.Model.Builds
import BenchmarkOrchestration.Proofs.Model.FirstSeen
import BenchmarkOrchestration.Proofs.Model.FlavorSummaries
import BenchmarkOrchestration.Proofs.Model.History
import BenchmarkOrchestration.Proofs.Model.ItemChanges
import BenchmarkOrchestration.Proofs.Model.RoundTrip
import BenchmarkOrchestration.Proofs.Model.Settings
import BenchmarkOrchestration.Proofs.Model.UnrefusedHistory
import BenchmarkOrchestration.Proofs.Naming.ArtifactPaths
import BenchmarkOrchestration.Proofs.Naming.Identification
import BenchmarkOrchestration.Proofs.Naming.LastComponent
import BenchmarkOrchestration.Proofs.Naming.PlainPath
import BenchmarkOrchestration.Proofs.Number.Rounding
import BenchmarkOrchestration.Proofs.Orchestration.AnalysisCourse
import BenchmarkOrchestration.Proofs.Orchestration.AnalysisFiles
import BenchmarkOrchestration.Proofs.Orchestration.AnalysisStages
import BenchmarkOrchestration.Proofs.Orchestration.BenchmarkArgument
import BenchmarkOrchestration.Proofs.Orchestration.BuildCourse
import BenchmarkOrchestration.Proofs.Orchestration.DryRun
import BenchmarkOrchestration.Proofs.Orchestration.ExpansionRoom
import BenchmarkOrchestration.Proofs.Orchestration.Gating
import BenchmarkOrchestration.Proofs.Orchestration.MatrixCourse
import BenchmarkOrchestration.Proofs.Orchestration.MatrixLabels
import BenchmarkOrchestration.Proofs.Orchestration.Meetings
import BenchmarkOrchestration.Proofs.Orchestration.OptionEnvironment
import BenchmarkOrchestration.Proofs.Orchestration.ProfileArgument
import BenchmarkOrchestration.Proofs.Orchestration.SideBySide
import BenchmarkOrchestration.Proofs.Orchestration.Steady
import BenchmarkOrchestration.Proofs.Orchestration.Sweep
import BenchmarkOrchestration.Proofs.Orchestration.Transcript
import BenchmarkOrchestration.Proofs.Orchestration.TruthfulOutcome
import BenchmarkOrchestration.Proofs.System.Frame
import BenchmarkOrchestration.Proofs.System.ProcessVariables
import BenchmarkOrchestration.Proofs.System.SearchDirectory
import BenchmarkOrchestration.Proofs.Targets.Enumeration
import BenchmarkOrchestration.Proofs.Targets.Preparation
import BenchmarkOrchestration.Proofs.Text.Pieces
import BenchmarkOrchestration.Proofs.Text.Separation
import BenchmarkOrchestration.Recording.Recorder
import BenchmarkOrchestration.System.FunctorScript
import BenchmarkOrchestration.System.Machine
import BenchmarkOrchestration.Targets.ExecutionTarget
import BenchmarkOrchestration.Targets.Identity
import BenchmarkOrchestration.Targets.Phase
import BenchmarkOrchestration.Text.Affix
import BenchmarkOrchestration.Text.Blank
import BenchmarkOrchestration.Text.Octets
import BenchmarkOrchestration.Text.Utf8
import BenchmarkOrchestration.Text.Width
