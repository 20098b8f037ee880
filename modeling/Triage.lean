import Triage.Collection.Classification
import Triage.Collection.Collector
import Triage.Collection.CompilerOutput
import Triage.Collection.Conversion
import Triage.Collection.FeatureHealth
import Triage.Collection.RawDiagnostic
import Triage.Collection.Recorded
import Triage.Collection.Report
import Triage.CommandLine.Replay
import Triage.CommandLine.Request
import Triage.CommandLine.Response
import Triage.CommandLine.Switch
import Triage.Compiler.Outcome
import Triage.Compiler.Replay
import Triage.Config
import Triage.Config.Designation
import Triage.Config.Loading
import Triage.Config.Record
import Triage.Decimal.Binary
import Triage.Decimal.Nearest
import Triage.Decimal.Numeral
import Triage.Decimal.Places
import Triage.Decimal.Rounding
import Triage.Decimal.Shortest
import Triage.Diagnostic
import Triage.Disk
import Triage.Display.Escape
import Triage.Display.Findings
import Triage.Display.Markup
import Triage.Display.Plain
import Triage.Display.ReportCard
import Triage.Failure
import Triage.Fix.Batch
import Triage.Fix.Report
import Triage.Fix.Safety
import Triage.Fix.Suggestion
import Triage.Fix.Template
import Triage.Glob
import Triage.Journal
import Triage.Json.Printer
import Triage.Json.Reader
import Triage.Limit
import Triage.Main
import Triage.Marker
import Triage.Message
import Triage.Moment
import Triage.OrderedMap
import Triage.Path
import Triage.Pattern.Basic
import Triage.Pattern.Identifier
import Triage.Pattern.Recognition
import Triage.Profile
import Triage.Project
import Triage.Proofs.Collection.Accounting
import Triage.Proofs.Collection.Classification
import Triage.Proofs.Collection.Collecting
import Triage.Proofs.Collection.Designating
import Triage.Proofs.Collection.Headers
import Triage.Proofs.Collection.Reading
import Triage.Proofs.Collection.Reingestion
import Triage.Proofs.Collection.Sorting
import Triage.Proofs.Collection.Tolerance
import Triage.Proofs.Collection.WrittenOutput
import Triage.Proofs.CommandLine.Agreement
import Triage.Proofs.CommandLine.Commands
import Triage.Proofs.Compiler.FailedRun
import Triage.Proofs.Disk
import Triage.Proofs.Disk.Writing
import Triage.Proofs.Fix.Coverage
import Triage.Proofs.Fix.Impact
import Triage.Proofs.Fix.Plans
import Triage.Proofs.Fix.Precedence
import Triage.Proofs.Fix.Risk
import Triage.Proofs.Grouping
import Triage.Proofs.Json.Numbers
import Triage.Proofs.Json.RoundTrip
import Triage.Proofs.Json.Texts
import Triage.Proofs.Numerals
import Triage.Proofs.Ordering
import Triage.Proofs.Path
import Triage.Proofs.Pattern.Gathering
import Triage.Proofs.Pattern.Identifier
import Triage.Proofs.Pattern.Recurrence
import Triage.Proofs.Project.Analysis
import Triage.Proofs.Project.Completion
import Triage.Proofs.Project.DomainAgreement
import Triage.Proofs.Quality.Arithmetic
import Triage.Proofs.Quality.Attribution
import Triage.Proofs.Quality.Components
import Triage.Proofs.Quality.Division
import Triage.Proofs.Quality.Explanation
import Triage.Proofs.Quality.Reporting
import Triage.Proofs.Quality.Scale
import Triage.Proofs.Quality.Worsening
import Triage.Proofs.Report.Export
import Triage.Proofs.Run
import Triage.Proofs.SourceTree
import Triage.Proofs.Text.Lines
import Triage.Proofs.Textual
import Triage.Proofs.Verdict
import Triage.Quality.Complexity
import Triage.Quality.Components
import Triage.Quality.Metrics
import Triage.Quality.Monitor
import Triage.Report.Export
import Triage.Report.Rendering
import Triage.Scalar
import Triage.Script.Reading
import Triage.Script.Running
import Triage.Session
import Triage.SourceText
import Triage.SourceTree
import Triage.Subsystem
import Triage.Text.Blank
import Triage.Text.Digit
import Triage.Text.Lines
import Triage.Text.LowerCase
import Triage.Text.Printable
import Triage.Text.Quoted
import Triage.Text.Ranges
import Triage.Text.Search
import Triage.Text.Similarity
import Triage.Text.WordChar
import Triage.TimeStamp
import Triage.Toml.Document
import Triage.Toml.Reader
import Triage.Value
import Triage.Value.Conversion
import Triage.Value.Holding
import Triage.Value.Identity
import Triage.Value.Showing
import Triage.Verdict
import Triage.Proofs.Config.Loading
import Triage.Proofs.Fix.Identification
import Triage.Proofs.Pattern.Issuing
import Triage.Proofs.CommandLine.Configuration
import Triage.Proofs.CommandLine.Exports
import Triage.Proofs.CommandLine.Effects
import Triage.Proofs.Table
import Triage.Proofs.Collection.FeatureHealth
import Triage.Proofs.Fix.ImpactRecord
import Triage.Proofs.Quality.Naming
import Triage.Proofs.Pattern.Growth
import Triage.Proofs.Message.Forgetting
import Triage.Proofs.Message.Canonical
import Triage.Proofs.SourceTree.Listing
import Triage.Proofs.SourceTree.Exclusion
import Triage.Proofs.Glob
import Triage.Proofs.Subsystem.Depth
import Triage.Proofs.Subsystem.ByName
import Triage.Proofs.Text.Occurrence
import Triage.Proofs.Message.Placeholders
import Triage.Proofs.Pattern.Labelling
import Triage.Proofs.Quality.Complexity
import Triage.Proofs.Path.Spelling
import Triage.Proofs.Collection.Spelling
import Triage.Proofs.Marker
import Triage.Proofs.Quality.Vulnerabilities
import Triage.Proofs.Fix.ImpactMaximum
import Triage.Proofs.Config.Restoring
import Triage.Proofs.Text.Cutting
import Triage.Proofs.Config.Designation
import Triage.Proofs.Quality.Annotations
import Triage.Proofs.Quality.Declarations
