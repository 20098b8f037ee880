import Triage.Quality.Components

/-!
# Quality metrics

The figures of a quality report: the health of the code, of the subsystems and of its
security, the overall score with its grade and trend, and what follows from them.
-/

namespace Triage

set_option autoImplicit false

/-- The health of the code as a whole. -/
structure CodeHealth (Number : Type) where
  typeSafety : Number
  /-- The share of files with diagnostics, in percent. -/
  errorDensity : Number
  complexity : Number
  maintainability : Number
  /-- Files that the complexity estimate could not read. -/
  unreadableFiles : List String
deriving Repr, DecidableEq, Inhabited

/-- The figure of the code that enters the overall score. -/
def CodeHealth.composite {Number : Type} [Scalar Number] (health : CodeHealth Number) : Number :=
  (health.typeSafety + health.maintainability) / Scalar.ofInt 2

/-- The health of the subsystems. -/
structure DomainHealth (Number : Type) where
  /-- The scores by the names of the subsystems. -/
  subsystems : OrderedMap Value Number
  aggregate : Number
  /-- The names of subsystems without files, which get the neutral score. -/
  unmatched : List Value
deriving Inhabited

/-- How safe the types are against misuse. -/
structure SecurityAssessment (Number : Type) where
  score : Number
  vulnerabilities : Int
  grade : String
  criticalIssues : List String
deriving Repr, DecidableEq, Inhabited

/-- Which way quality goes. -/
inductive QualityTrend where
  | improving
  | stable
  | declining
deriving Repr, DecidableEq, Inhabited

/-- The word for a trend. -/
def QualityTrend.word : QualityTrend → String
  | .improving => "improving"
  | .stable => "stable"
  | .declining => "declining"

/-- The trend that a word stands for. -/
def QualityTrend.ofWord? (word : String) : Option QualityTrend :=
  [QualityTrend.improving, .stable, .declining].find? fun trend => trend.word = word

/-- The overall score. -/
structure OverallScore (Number : Type) where
  score : Number
  grade : String
  trend : QualityTrend
deriving Repr, DecidableEq, Inhabited

/-- What to do about the quality. -/
structure QualityRecommendation where
  priority : Level
  /-- The area: code, domain or security. -/
  area : String
  /-- What to do, as it was configured or in the standard words. -/
  description : Value
  impact : String
deriving Inhabited

/-- The figures of one analysis. -/
structure QualityMetrics (Number : Type) where
  code : CodeHealth Number
  domain : DomainHealth Number
  security : SecurityAssessment Number
  overall : OverallScore Number
  recommendations : List QualityRecommendation
deriving Inhabited

/-- The record of a recommendation in a report. -/
def QualityRecommendation.toValue (recommendation : QualityRecommendation) : Value :=
  .table
    [("priority", .text recommendation.priority.word), ("category", .text recommendation.area),
      ("description", recommendation.description),
      ("impact", .text recommendation.impact)]

/-- The fields of the metrics in a report. -/
def QualityMetrics.fields (metrics : QualityMetrics Float) : List (String × Value) :=
  [("overall", .table
      [("score", .float metrics.overall.score), ("grade", .text metrics.overall.grade),
        ("trend", .text metrics.overall.trend.word)]),
    ("code_health", .table
      [("type_safety", .float metrics.code.typeSafety),
        ("error_density", .float metrics.code.errorDensity),
        ("complexity_score", .float metrics.code.complexity),
        ("maintainability_index", .float metrics.code.maintainability),
        ("unreadable_files", textList metrics.code.unreadableFiles)]),
    ("domain_health", .table
      [("subsystems", entryTable Value.float metrics.domain.subsystems),
        ("aggregate", .float metrics.domain.aggregate),
        ("unmatched_subsystems", .list metrics.domain.unmatched)]),
    ("security_assessment", .table
      [("type_security_score", .float metrics.security.score),
        ("vulnerability_count", .int metrics.security.vulnerabilities),
        ("security_grade", .text metrics.security.grade),
        ("critical_issues", textList metrics.security.criticalIssues)]),
    ("recommendations",
      .list (metrics.recommendations.map QualityRecommendation.toValue))]

/-- The metrics of an analysis and, when they were asked for, its components. -/
structure QualityReport (Number : Type) where
  metrics : QualityMetrics Number
  components : Option ComponentScan
  observedAt : String
deriving Inhabited

/-- The fields of a component scan in a report. -/
def ComponentScan.fields (scan : ComponentScan) : List (String × Value) :=
  [("component_health", .list (scan.components.map ComponentHealth.toValue)),
    ("unreadable_components", textList scan.unreadable)]

/-- The body of the report. -/
def QualityReport.toValue (report : QualityReport Float) : Value :=
  .table (report.metrics.fields ++ (report.components.map ComponentScan.fields).getD [])

end Triage
