import Triage.Config

/-!
# The record of a configuration

What a configuration says as a value, section by section and setting by setting.  Settings
that are kept as they were written appear as they were written, and defaults appear like
settings that were given.
-/

namespace Triage

set_option autoImplicit false

/-- The fields of a subsystem in a record. -/
def Subsystem.fields (subsystem : Subsystem Float) : List (String × Value) :=
  [("name", subsystem.name), ("keywords", .list subsystem.keywords),
    ("globs", .list subsystem.globs), ("tier", .text subsystem.tier.word),
    ("health_threshold", .float subsystem.healthThreshold),
    ("critical_threshold", .int subsystem.criticalThreshold)]

/-- The fields of a subsystem that say what to do about it. -/
def Subsystem.remedyFields (subsystem : Subsystem Float) : List (String × Value) :=
  [("recommendation", subsystem.recommendation),
    ("validation_steps", .list subsystem.validationSteps)]

/-- The record of a subsystem. -/
def Subsystem.toValue (subsystem : Subsystem Float) : Value := .table subsystem.fields

/-- The record of a range of codes. -/
def CodeRange.toValue (range : CodeRange) : Value := .list [.int range.low, .int range.high]

/-- The record of the analysis section. -/
def Options.toValue (options : Options Float) : Value :=
  .table
    [("include_dependencies", .bool options.includeDependencies),
      ("max_diagnostics", (options.maxDiagnostics.map Value.int).getD .null),
      ("designated_subsystems", .list (options.subsystems.map fun subsystem =>
        .table (subsystem.fields ++ subsystem.remedyFields)))]

/-- The record of the compiler section. -/
def Profile.toValue (profile : Profile) : Value :=
  .table
    [("command", .list profile.command), ("tsconfig", profile.settingsFile),
      ("timeout_seconds", .int profile.timeoutSeconds),
      ("parse_range", profile.parseRange.toValue), ("type_range", profile.typeRange.toValue),
      ("module_resolution_codes", .list (profile.moduleResolutionCodes.map CodeRange.toValue)),
      ("permissive_markers", .list profile.permissiveMarkers),
      ("dynamic_eval_markers", .list profile.dynamicEvalMarkers),
      ("infrastructure_markers", .list profile.infrastructureMarkers)]

/-- The record of the weights. -/
def Weights.toValue (weights : Weights Float) : Value :=
  .table
    [("code", .float weights.code), ("domain", .float weights.domain),
      ("security", .float weights.security),
      ("type_error_penalty", .float weights.typeErrorPenalty),
      ("subsystem_error_penalty", .float weights.subsystemErrorPenalty),
      ("vulnerability_penalty", .float weights.vulnerabilityPenalty),
      ("neutral_subsystem_score", .float weights.neutralSubsystemScore),
      ("trend_tolerance", .float weights.trendTolerance)]

/-- The record of the quality section. -/
def QualitySettings.toValue (quality : QualitySettings Float) : Value :=
  .table
    [("complexity_score", (quality.complexity.map Value.float).getD .null),
      ("source_extensions", .list quality.extensions), ("weights", quality.weights.toValue)]

/-- The record of a configuration. -/
def Config.toValue (config : Config Float) : Value :=
  .table
    [("exclude", config.exclude), ("analysis", config.analysis.toValue),
      ("compiler", config.compiler.toValue), ("quality", config.quality.toValue)]

end Triage
