import Triage.CommandLine.Request
import Triage.Config.Designation
import Triage.Display.Escape
import Triage.Display.Findings
import Triage.Display.ReportCard
import Triage.Project

/-!
# Commands and their responses

A command computes what it prints, the disk with its exports, and whether the score
passes, and changes nothing else.  `Response.to` answers arguments: the exit code is
zero for a command that ran, one for a score below the threshold, and two for
arguments, a configuration or a compiler that do not let the command run.  All other
failures are left to the caller, and so is an argument that can be no path.

Commands run on a host: its programs are those that a compiler is taken from, and its
terminal decides which items it can show.  What is printed holds messages, names and paths
as they are, and where they hold brackets the markup need not be in order.  A command ends
there, with what it has done before.  Errors are escaped, and notes are no markup, so
these are always shown.
-/

namespace Triage.CommandLine

set_option autoImplicit false

/-- The exit code when the score is below the threshold. -/
def belowThreshold : Nat := 1

/-- The exit code when the command could not run. -/
def couldNotRun : Nat := 2

/-- What commands run on. -/
structure Host where
  programs : Programs
  /-- Whether the terminal can show an item. -/
  shows : Display.Item → Bool

/-- Show items one after the other. -/
def Host.show (host : Host) (items : List Display.Item) : Except Failure Unit :=
  if items.all host.shows then .ok () else .error .unshown

/-- What a command that ran leaves behind. -/
structure Completion where
  printed : List Display.Item
  disk : Disk
  passed : Bool := true

/-- A line of output. -/
def line (content : String) : Display.Item := .text ("  " ++ content)

/-! ## Opening the project -/

/-- The subsystems that were designated on the command line. -/
def designated (parameters : Parameters) : Except Failure (List (Subsystem Float)) :=
  parameters.subsystems.mapM fun written => Subsystem.ofText written .secondary

/-- Load the configuration of the project. -/
def loadConfig (disk : Disk) (directory : Place) (parameters : Parameters) :
    Except Failure (Config Float) :=
  Config.load disk ((Path.ofPlace directory).join parameters.root)

/-- Options with what the command line overrides. -/
def overrideOptions (options : Options Float) (parameters : Parameters)
    (extra : List (Subsystem Float)) : Options Float where
  includeDependencies := options.includeDependencies || parameters.includeDependencies
  maxDiagnostics := parameters.maxDiagnostics.or options.maxDiagnostics
  subsystems := options.subsystems ++ extra

/-- Where the diagnostics come from. -/
def sourceOf (host : Host) (directory : Place) (parameters : Parameters) : DiagnosticSource :=
  match parameters.diagnosticsFile with
  | some path => .file path directory
  | none => .compiler host.programs

/-- The project that a command works on. -/
def openProject (host : Host) (disk : Disk) (directory : Place) (parameters : Parameters) :
    Except Failure Project := do
  let config ← loadConfig disk directory parameters
  let extra ← designated parameters
  let analysis := overrideOptions config.analysis parameters extra
  return Project.openAt (parameters.root.resolve directory) { config with analysis }
    (sourceOf host directory parameters)

/-! ## The threshold -/

/-- Whether a score reaches a threshold; a threshold of zero is none. -/
def passes (failUnder score : Float) : Bool := failUnder == 0 || !(score < failUnder)

/-- The line about a score that does not reach its threshold. -/
def thresholdLines (failUnder score : Float) : List Display.Item :=
  if passes failUnder score then []
  else
    [.text ("\n  " ++ Display.styled "red"
      ("Score " ++ Decimal.fixed 0 score ++ " is below threshold " ++
        Decimal.significant failUnder ++ "."))]

/-! ## Presenting -/

/-- What a command has to show: the exports that it writes, what it prints before and behind the
lines about them, and whether the score passes. -/
structure Presentation where
  exports : List Export := []
  /-- What has been printed while the command was still working. -/
  early : List Display.Item := []
  before : List Display.Item := []
  behind : List Display.Item := []
  passed : Bool := true

/-- The lines about exports. -/
def savedLines (exports : List Export) : List Display.Item :=
  exports.map fun report => line (Display.styled "dim" ("Report saved to " ++ report.path.text))

/-- What a command that has exported leaves behind. -/
def Presentation.completion (shown : Presentation) (written : Disk) : Completion :=
  { printed := shown.early ++ shown.before ++ savedLines shown.exports ++ shown.behind
    disk := written
    passed := shown.passed }

/-- Print, write the exports, say so, and complete. -/
def Host.present (host : Host) (shown : Presentation) (directory : Place) (disk : Disk) :
    Run Completion := do
  host.show shown.before
  let written ← writeExports directory shown.exports disk
  host.show (savedLines shown.exports ++ shown.behind)
  return shown.completion written

/-- The exports for a target, if there is one. -/
def wanted (target : Option Path) (exports : Path → List Export) : List Export :=
  match target with
  | none => []
  | some path => exports path

/-- The line that stands while a project is analysed. -/
def progressLine (root : Place) : Display.Item :=
  .progress ("Analyzing " ++ (Path.ofPlace root).text ++ "...")

/-- The lines about the stages of an analysis. -/
def stageLines (analysis : Analysis) : List Display.Item :=
  [line (toString analysis.patterns.patterns.length ++ " recurring patterns | " ++
      toString analysis.fixes.suggestions.length ++ " suggested fixes | " ++
      toString analysis.fixes.plans.length ++ " batch plans"),
    line ("Details: " ++ Display.styled "bold" "diaglens patterns" ++ ", " ++
      Display.styled "bold" "diaglens fixes")]

/-- The report card of metrics, with the counts of the collection that they were made from. -/
def cardOf (metrics : QualityMetrics Float) (collection : CollectionReport) : List Display.Item :=
  Display.reportCard metrics (some (.ofReport collection)) Display.standardTitle

/-- What is shown of the analysis of a project at `root`. -/
def Presentation.ofAnalysis (parameters : Parameters) (root : Place) (analysis : Analysis) :
    Presentation where
  exports := wanted parameters.exportTo analysis.exports
  early := [progressLine root]
  before := cardOf analysis.quality.metrics analysis.collection ++ stageLines analysis
  behind := thresholdLines parameters.failUnder analysis.quality.metrics.overall.score
  passed := passes parameters.failUnder analysis.quality.metrics.overall.score

/-- What is shown of patterns. -/
def Presentation.ofPatterns (parameters : Parameters) (report : PatternReport) :
    Presentation where
  exports := wanted parameters.exportTo fun path => [report.toExport path]
  before := Display.patternTable report

/-- What is shown of suggested fixes: as many as are wanted, while all of them are exported. -/
def Presentation.ofFixes (parameters : Parameters) (report : FixReport) : Presentation where
  exports := wanted parameters.exportTo fun path => [report.toExport path]
  before := Display.fixPanel report parameters.limit

/-- What is shown of a quality report. -/
def Presentation.ofQuality (parameters : Parameters) (collection : CollectionReport)
    (report : QualityReport Float) : Presentation where
  exports := wanted parameters.exportTo fun path => [report.toExport path]
  before := cardOf report.metrics collection
  behind := thresholdLines parameters.failUnder report.metrics.overall.score
  passed := passes parameters.failUnder report.metrics.overall.score

/-- The export of a component scan. -/
def ComponentScan.toExport (scan : ComponentScan) (observedAt : String) (path : Path) : Export :=
  { path, engine := .quality, body := .table scan.fields, observedAt }

/-- What is shown of a component scan. -/
def Presentation.ofScan (parameters : Parameters) (observedAt : String) (scan : ComponentScan) :
    Presentation where
  exports := wanted parameters.exportTo fun path => [ComponentScan.toExport scan observedAt path]
  before := Display.componentTable scan

/-- What the components command says when there is no subsystem. -/
def noSubsystems : Display.Item :=
  line (Display.styled "yellow" "No designated subsystems configured." ++
    " Use --subsystem or diaglens.toml.")

/-! ## The commands -/

/-- Run all stages and print the report card. -/
def runAnalyze (host : Host) (parameters : Parameters) (disk : Disk) (directory : Place)
    (observedAt : String) : Run Completion := do
  let project ← openProject host disk directory parameters
  host.show [progressLine project.tree.root]
  let analysis ← project.analyze disk none observedAt false
  Display.checkCard analysis.quality.metrics
  host.present (.ofAnalysis parameters project.tree.root analysis) directory
    (project.diskAfter disk)

/-- Collect the diagnostics and print the patterns. -/
def runPatterns (host : Host) (parameters : Parameters) (disk : Disk) (directory : Place)
    (observedAt : String) : Run Completion := do
  let project ← openProject host disk directory parameters
  let collection ← project.collect disk
  let report ← reportPatterns project.subsystems observedAt collection.diagnostics
  host.present (.ofPatterns parameters report) directory (project.diskAfter disk)

/-- Collect the diagnostics and print suggested fixes. -/
def runFixes (host : Host) (parameters : Parameters) (disk : Disk) (directory : Place)
    (observedAt : String) : Run Completion := do
  let project ← openProject host disk directory parameters
  let collection ← project.collect disk
  let report ← reportFixes project.config.compiler project.subsystems observedAt
    collection.diagnostics
  Display.checkPanel report parameters.limit
  host.present (.ofFixes parameters report) directory (project.diskAfter disk)

/-- Collect the diagnostics and print the report card. -/
def runQuality (host : Host) (parameters : Parameters) (disk : Disk) (directory : Place)
    (observedAt : String) : Run Completion := do
  let project ← openProject host disk directory parameters
  let collection ← project.collect disk
  let disk := project.diskAfter disk
  checkPatterns project.subsystems collection.diagnostics
  let patterns := findPatterns project.subsystems collection.diagnostics
  let report ← reportQuality disk (project.qualityScope none) observedAt collection.diagnostics
    patterns false
  Display.checkCard report.metrics
  host.present (.ofQuality parameters collection report) directory disk

/-- Scan the components without collecting diagnostics. -/
def runComponents (host : Host) (parameters : Parameters) (disk : Disk) (directory : Place)
    (observedAt : String) : Run Completion := do
  let project ← openProject host disk directory parameters
  if project.subsystems.isEmpty then
    host.present { before := [noSubsystems] } directory disk
  else
    let scan ← reportComponents disk project.tree project.config.compiler project.subsystems
    host.present (.ofScan parameters observedAt scan) directory disk

/-- Run a command. -/
def Command.run (command : Command) :
    Host → Parameters → Disk → Place → String → Run Completion :=
  match command with
  | .analyze => runAnalyze
  | .patterns => runPatterns
  | .fixes => runFixes
  | .quality => runQuality
  | .components => runComponents

/-! ## Responses -/

/-- The answer to arguments. -/
structure Response where
  exitCode : Nat
  /-- What is printed without markup. -/
  plain : String := ""
  printed : List Display.Item := []
  errors : List Display.Item := []
  journal : List Note := []
  /-- What is wrong with the arguments. -/
  usage : Option UsageFault := none
  disk : Disk

/-- The text about the version. -/
def versionText : String := "diaglens, version " ++ toolVersion ++ "\n"

/-- The text about the commands. -/
def helpText : String :=
  "diaglens COMMAND [OPTIONS] [ROOT]\n\nCommands: analyze, patterns, fixes, quality, components\n"

/-- The line about a failure that kept a command from running. -/
def errorLine (message : String) : Display.Item :=
  line (Display.styled "red" "Error:" ++ " " ++ Display.escaped message)

/-- Answer a command that has run or has failed. -/
def Response.ofRun (disk : Disk) :
    Except Failure Completion × List Note → Except Failure Response
  | (.ok completion, notes) =>
      .ok { exitCode := if completion.passed then 0 else belowThreshold
            printed := completion.printed
            journal := notes
            disk := completion.disk }
  | (.error failure, notes) =>
      match failure.message? with
      | some message =>
          .ok { exitCode := couldNotRun
                errors := [errorLine message]
                journal := notes
                disk }
      | none => .error failure

/-- Answer arguments that are given in a working directory. -/
def Response.to (host : Host) (disk : Disk) (directory : Place) (observedAt : String)
    (arguments : List String) : Except Failure Response :=
  match Request.ofArguments disk directory arguments with
  | .error (.badValue _ (.notAPath _)) => .error .invalidValue
  | .error fault => .ok { exitCode := couldNotRun, usage := some fault, disk }
  | .ok .version => .ok { exitCode := 0, plain := versionText, disk }
  | .ok .help => .ok { exitCode := 0, plain := helpText, disk }
  | .ok (.run command parameters) =>
      let attention := if parameters.verbose then .everything else .warnings
      Response.ofRun disk
        ((command.run host parameters disk directory observedAt).perform attention)

end Triage.CommandLine
