import Triage.Diagnostic
import Triage.OrderedMap
import Triage.Value.Identity

/-!
# The report of a collection

What became of the records of the compiler: the diagnostics that were kept, and how
many records were dropped for which reason, so that every record is accounted for.
-/

namespace Triage

set_option autoImplicit false

/-- A list of texts in a report. -/
def textList (texts : List String) : Value := .list (texts.map .text)

/-- A count in a report. -/
def countValue (count : Nat) : Value := .int count

/-- Entries of a report as a table; a name that is no text is written as it would be written
in the report. -/
def entryTable {Entry : Type} (toValue : Entry → Value) (entries : OrderedMap Value Entry) :
    Value :=
  .table (entries.bindings.map fun entry => (entry.1.entryName, toValue entry.2))

/-- The outcome of a collection. -/
structure CollectionReport where
  projectRoot : Path
  diagnostics : List Diagnostic
  totalRaw : Nat
  /-- Diagnostics beyond the limit. -/
  truncated : Nat
  /-- Records that lack a file, a position or a code. -/
  skipped : Nat
  /-- Diagnostics inside dependencies. -/
  excludedDependencies : Nat
  featureHealth : OrderedMap Value Bool
  unreadableFiles : List String
  sourceFileCount : Nat

namespace CollectionReport

/-- The counts of a collection. -/
def summary (report : CollectionReport) : Value :=
  .table
    [("total_raw", countValue report.totalRaw),
      ("returned", countValue report.diagnostics.length),
      ("truncated_count", countValue report.truncated),
      ("skipped_count", countValue report.skipped),
      ("excluded_dependency_count", countValue report.excludedDependencies),
      ("source_file_count", countValue report.sourceFileCount),
      ("unreadable_count", countValue report.unreadableFiles.length)]

/-- The health of each subsystem as a feature. -/
def features (report : CollectionReport) : Value :=
  entryTable Value.bool report.featureHealth

/-- The body of the report. -/
def toValue (report : CollectionReport) : Value :=
  .table
    [("project_root", .text report.projectRoot.text), ("summary", report.summary),
      ("domain_feature_health", report.features),
      ("unreadable_files", textList report.unreadableFiles),
      ("diagnostics", .list (report.diagnostics.map Diagnostic.toValue))]

end CollectionReport

end Triage
