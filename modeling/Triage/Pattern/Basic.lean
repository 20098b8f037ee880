import Triage.Collection.Report
import Triage.Message
import Triage.Value.Holding

/-!
# Recurring diagnostics

A pattern is a group of diagnostics that belong together: those whose messages say
the same, or those that concern a designated subsystem.
-/

namespace Triage

set_option autoImplicit false

/-- How strongly a pattern touches the designated subsystems. -/
inductive DomainImpact where
  | none
  | low
  | medium
  | high
deriving Repr, DecidableEq, Inhabited

/-- The word for an impact. -/
def DomainImpact.word : DomainImpact → String
  | .none => "none"
  | .low => "low"
  | .medium => "medium"
  | .high => "high"

/-- The impact that a word stands for. -/
def DomainImpact.ofWord? (word : String) : Option DomainImpact :=
  [DomainImpact.none, .low, .medium, .high].find? fun impact => impact.word = word

/-- A group of diagnostics that belong together. -/
structure ErrorPattern where
  identifier : String
  name : String
  description : String
  /-- The normalized message, or the keywords with bars in between. -/
  matcher : String
  category : Category
  frequency : Int
  severity : Level
  /-- The names of the files concerned, without directories. -/
  affectedFiles : List String
  suggestedFix : String
  domainImpact : DomainImpact
  /-- The keywords of a pattern that looks for keywords; none for one that looks for a
  normalized message. -/
  keywords : List Value
deriving Inhabited

namespace ErrorPattern

/-- Whether a message belongs to a pattern; only a text says something. -/
def admits? (pattern : ErrorPattern) (message : Value) : Verdict :=
  if pattern.keywords.isEmpty then do
    return Message.normalize (← message.textOr .notATable) == pattern.matcher
  else pattern.keywords.anyM message.holds?

/-- Whether a message belongs to a pattern. -/
def admits (pattern : ErrorPattern) (message : Value) : Bool := (pattern.admits? message).passed

/-- The record of a pattern in a report. -/
def toValue (pattern : ErrorPattern) : Value :=
  .table
    [("id", .text pattern.identifier), ("name", .text pattern.name),
      ("description", .text pattern.description), ("matcher", .text pattern.matcher),
      ("category", .text pattern.category.word), ("frequency", .int pattern.frequency),
      ("severity", .text pattern.severity.word),
      ("affected_files", textList pattern.affectedFiles),
      ("suggested_fix", .text pattern.suggestedFix),
      ("domain_impact", .text pattern.domainImpact.word)]

end ErrorPattern

/-- Which way the number of occurrences goes. -/
inductive Trend where
  | increasing
  | stable
  | decreasing
deriving Repr, DecidableEq, Inhabited

/-- The word for a trend. -/
def Trend.word : Trend → String
  | .increasing => "increasing"
  | .stable => "stable"
  | .decreasing => "decreasing"

/-- The trend of a pattern. -/
structure PatternTrend where
  pattern : String
  occurrences : Int
  firstSeen : String
  trend : Trend
deriving Repr, DecidableEq, Inhabited

/-- The record of a trend in a report. -/
def PatternTrend.toValue (trend : PatternTrend) : Value :=
  .table
    [("pattern", .text trend.pattern), ("occurrences", .int trend.occurrences),
      ("first_seen", .text trend.firstSeen), ("trend", .text trend.trend.word)]

/-- How many diagnostics concern each subsystem, and which subsystems are critical. -/
structure SubsystemCounts where
  counts : OrderedMap Value Nat
  criticalIssues : List String
  /-- The names of the critical subsystems. -/
  criticalSubsystems : List Value
deriving Inhabited

/-- The record of the counts in a report. -/
def SubsystemCounts.toValue (counts : SubsystemCounts) : Value :=
  .table
    [("counts", entryTable countValue counts.counts),
      ("critical_issues", textList counts.criticalIssues),
      ("critical_subsystems", .list counts.criticalSubsystems)]

/-- What was found to recur. -/
structure PatternReport where
  patterns : List ErrorPattern
  trends : List PatternTrend
  subsystems : SubsystemCounts
  recommendations : List String
  diagnosticCount : Nat
  observedAt : String
deriving Inhabited

namespace PatternReport

/-- The patterns of a category. -/
def ofCategory (report : PatternReport) (category : Category) : List ErrorPattern :=
  report.patterns.filter fun pattern => pattern.category = category

/-- The body of the report. -/
def toValue (report : PatternReport) : Value :=
  .table
    [("diagnostic_count", countValue report.diagnosticCount),
      ("discovered_patterns", .list (report.patterns.map ErrorPattern.toValue)),
      ("pattern_trends", .list (report.trends.map PatternTrend.toValue)),
      ("subsystem_pattern_health", report.subsystems.toValue),
      ("recommendations", textList report.recommendations)]

end PatternReport

end Triage
