import Triage.Collection.Collector
import Triage.Config.Loading
import Triage.Fix.Report
import Triage.Quality.Monitor
import Triage.Report.Export

/-!
# Analysing a project

A project is a source tree with a configuration and a source of diagnostics.  An
analysis of it collects the diagnostics once and hands them to three stages that do
not know of each other, except that the quality score also looks at the patterns.
Data flows one way only, and nothing but the exported reports is written.
-/

namespace Triage

set_option autoImplicit false

/-- A project as it is analysed. -/
structure Project where
  tree : SourceTree
  config : Config Float
  source : DiagnosticSource

namespace Project

/-- The project at a place under a configuration. -/
def openAt (root : Place) (config : Config Float) (source : DiagnosticSource) : Project :=
  { tree := .openAt root config.quality.extensions config.exclude, config, source }

/-- The project with its source files listed. -/
def listed (project : Project) (disk : Disk) : Project :=
  { project with tree := project.tree.listed disk }

/-- The subsystems that the project looks after. -/
def subsystems (project : Project) : List (Subsystem Float) := project.config.analysis.subsystems

/-- Collect the diagnostics of the project. -/
def collect (project : Project) (disk : Disk) : Run CollectionReport :=
  Triage.collect disk project.tree project.config.compiler project.config.analysis project.source

/-- The disk after the diagnostics of the project have been collected. -/
def diskAfter (project : Project) (disk : Disk) : Disk :=
  project.source.diskAfter disk project.tree.root project.config.compiler

/-- Whether an analysis comes as far as listing the source files: the records can be read
and sorted, and nothing stands in the way of the listing. -/
def listsFiles (project : Project) (disk : Disk) : Bool :=
  let root := project.tree.root
  let profile := project.config.compiler
  let sorted : Run SortedRecords := do
    sortRecords root profile project.config.analysis (← project.source.read disk root profile)
  (sorted.perform .nothing).1.toBool && (project.tree.files? (project.diskAfter disk)).toBool

/-- What the quality of the project is measured on. -/
def qualityScope (project : Project) (previous : Option Float) : QualityScope Float :=
  { tree := project.tree
    settings := project.config.quality
    profile := project.config.compiler
    subsystems := project.subsystems
    previous }

end Project

/-- The reports of all stages. -/
structure Analysis where
  collection : CollectionReport
  patterns : PatternReport
  fixes : FixReport
  quality : QualityReport Float
  observedAt : String

namespace Project

/-- Run all stages; `previous` is the overall score of the run before. -/
def analyze (project : Project) (disk : Disk) (previous : Option Float) (observedAt : String)
    (withComponents : Bool) : Run Analysis := do
  let collection ← project.collect disk
  let disk := project.diskAfter disk
  let diagnostics := collection.diagnostics
  let patterns ← reportPatterns project.subsystems observedAt diagnostics
  let fixes ← reportFixes project.config.compiler project.subsystems observedAt diagnostics
  let quality ← reportQuality disk (project.qualityScope previous) observedAt diagnostics
    patterns.patterns withComponents
  Run.info ("Analysis complete: " ++ toString diagnostics.length ++ " diagnostics, " ++
    toString patterns.patterns.length ++ " patterns, " ++ toString fixes.suggestions.length ++
    " suggestions")
  return { collection, patterns, fixes, quality, observedAt }

end Project

/-! ## Exports of the stages -/

/-- The export of a collection. -/
def CollectionReport.toExport (report : CollectionReport) (observedAt : String) (path : Path) :
    Export :=
  { path, engine := .collector, body := report.toValue, observedAt
    names := report.featureHealth.keys }

/-- The export of patterns. -/
def PatternReport.toExport (report : PatternReport) (path : Path) : Export :=
  { path, engine := .patterns, body := report.toValue, observedAt := report.observedAt
    names := report.subsystems.counts.keys }

/-- The export of suggested fixes; once it is written, it is noted that nothing was
applied. -/
def FixReport.toExport (report : FixReport) (path : Path) : Export where
  path := path
  engine := .fixes
  body := report.toValue
  observedAt := report.observedAt
  remark := some ("All " ++ toString report.suggestions.length ++
    " suggested fixes require manual review")

/-- The export of a quality report. -/
def QualityReport.toExport (report : QualityReport Float) (path : Path) : Export :=
  { path, engine := .quality, body := report.toValue, observedAt := report.observedAt
    names := report.metrics.domain.subsystems.keys }

namespace Analysis

/-- The exports of an analysis into a directory, one for every stage. -/
def exports (analysis : Analysis) (target : Path) : List Export :=
  [analysis.collection.toExport analysis.observedAt (target.child "diagnostics.json"),
    analysis.patterns.toExport (target.child "patterns.json"),
    analysis.fixes.toExport (target.child "fix-recommendations.json"),
    analysis.quality.toExport (target.child "quality.json")]

end Analysis

end Triage
