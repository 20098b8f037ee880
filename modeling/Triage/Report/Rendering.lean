import Triage.Json.Printer
import Triage.OrderedMap

/-!
# Reports as text

Every exported report is a JSON text: the body of the report, its keys in the order in
which they were recorded, followed by a block of metadata.  The metadata names the
engine that made the report and states that nothing but reports was written, which is
what later tools check before they trust one.
-/

namespace Triage

set_option autoImplicit false

/-- The version that reports and the command line name. -/
def toolVersion : String := "1.0.0"

/-- The mode that every report states: sources are read and never changed. -/
def safetyMode : String := "ANALYSIS_ONLY"

/-- The stages that make reports. -/
inductive Engine where
  | collector
  | patterns
  | fixes
  | quality
deriving Repr, DecidableEq, Inhabited

/-- The name of an engine in its reports. -/
def Engine.word : Engine → String
  | .collector => "DiagnosticCollector"
  | .patterns => "PatternRecognitionEngine"
  | .fixes => "FixRecommendationEngine"
  | .quality => "SafeQualityMonitor"

/-- The metadata of a report that was observed at a moment. -/
def metadata (engine observedAt : String) : Value :=
  .table
    [("engineName", .text engine), ("version", .text toolVersion),
      ("safetyMode", .text safetyMode), ("manualApprovalRequired", .bool true),
      ("timestamp", .text observedAt)]

/-- The text of a report: its fields and then its metadata, which take the place of a
field of the same name. -/
def renderReport (fields : List (String × Value)) (engine observedAt : String) : String :=
  Json.wide (.table (OrderedMap.insertInto "metadata" (metadata engine observedAt) fields))

/-- The text of a report whose body is a table. -/
def renderBody (body : Value) (engine : Engine) (observedAt : String) : String :=
  match body with
  | .table fields => renderReport fields engine.word observedAt
  | other => Json.wide other

end Triage
