import Triage.Config
import Triage.Disk
import Triage.Toml.Reader
import Triage.Value.Showing

/-!
# Loading a configuration

A configuration file is a TOML document with five sections.  Keys that are not known
are passed over, and a setting that is not given keeps its default.  Settings that
are numbers are converted while loading; settings that are texts or lists of texts
are kept as they were written, whatever they are, and fail where they are used; loading
itself shows a name in the glob that follows from it, and a value that it complains about.

Sections are read in a fixed order, and the first setting that cannot be read decides
how loading fails; only a limit below zero is found after everything else.
-/

namespace Triage

set_option autoImplicit false

/-! ## Reading settings -/

/-- Change a part of a configuration when its key is given. -/
def whenGiven {Part : Type} (written : Value) (key : String) (part : Part)
    (change : Value → Except Failure Part) : Except Failure Part := do
  match ← written.lookup key with
  | none => return part
  | some value => change value

/-- A range of codes is a list of two whole numbers. -/
def CodeRange.ofValue (setting : String) (value : Value) : Except Failure CodeRange :=
  match value with
  | .list [low, high] => do return ⟨← low.toInt, ← high.toInt⟩
  | other => do
      other.checkShown
      throw (.configuration (.invalidRange setting other))

/-- A field of a table, or a default. -/
def fieldOr (fields : List (String × Value)) (key : String) (default : Value) : Value :=
  (OrderedMap.findIn key fields).getD default

/-- Read a tier; only the two words stand for one. -/
def Tier.ofValue (tier name : Value) : Except Failure Tier :=
  let found? := match tier with
    | .text word => Tier.ofWord? word
    | _ => none
  match found? with
  | some found => .ok found
  | none => do
      tier.checkShown
      name.checkShown
      throw (.configuration (.unknownTier tier name))

/-- Read a subsystem from the fields of its table. -/
def Subsystem.ofFields (fields : List (String × Value)) :
    Except Failure (Subsystem Float) := do
  let some name := OrderedMap.findIn "name" fields
    | throw (.configuration .subsystemWithoutName)
  let tier ← Tier.ofValue (fieldOr fields "tier" (.text Tier.secondary.word)) name
  let keywords ← (fieldOr fields "keywords" (.list [])).toItems
  let globs ← (fieldOr fields "globs" (.list [])).toItems
  let healthThreshold ←
    (fieldOr fields "health_threshold" (.float standardHealthThreshold)).toFloat
  let criticalThreshold ←
    (fieldOr fields "critical_threshold" (.int standardCriticalThreshold)).toInt
  let recommendation := fieldOr fields "recommendation" (.text "")
  let validationSteps ← (fieldOr fields "validation_steps" (.list [])).toItems
  if globs.isEmpty then name.checkShown
  return Subsystem.withDefaults
    { name, keywords, globs, tier, healthThreshold, criticalThreshold, recommendation,
      validationSteps }

/-- Read a subsystem from a value that has to be a table with a name. -/
def Subsystem.ofValue (value : Value) : Except Failure (Subsystem Float) :=
  let named := match value with
    | .text content => Text.occurs "name" content
    | .list items => items.any (Value.isText "name")
    | _ => false
  match value with
  | .table fields => Subsystem.ofFields fields
  | .text _ | .list _ =>
      if named then throw .notATable else throw (.configuration .subsystemWithoutName)
  | _ => throw .wrongKind

/-- Read the analysis section. -/
def Options.readSection (options : Options Float) (written : Value) :
    Except Failure (Options Float) := do
  let options ← whenGiven written "max_diagnostics" options fun value => do
    return { options with maxDiagnostics := some (← value.toInt) }
  whenGiven written "include_dependencies" options fun value =>
    return { options with includeDependencies := value.isTruthy }

/-- The words of a command that is written as a text, or the items of a list. -/
def commandOfValue : Value → Except Failure (List Value)
  | .text content => .ok (textValues (Text.words content))
  | other => other.toItems

/-- Read the compiler section. -/
def Profile.readSection (profile : Profile) (written : Value) :
    Except Failure Profile := do
  let profile ← whenGiven written "command" profile fun value => do
    return { profile with command := ← commandOfValue value }
  let profile ← whenGiven written "tsconfig" profile fun value =>
    return { profile with settingsFile := value }
  let profile ← whenGiven written "timeout_seconds" profile fun value => do
    return { profile with timeoutSeconds := ← value.toInt }
  let profile ← whenGiven written "parse_range" profile fun value => do
    return { profile with parseRange := ← CodeRange.ofValue "parse_range" value }
  let profile ← whenGiven written "type_range" profile fun value => do
    return { profile with typeRange := ← CodeRange.ofValue "type_range" value }
  let profile ← whenGiven written "module_resolution_codes" profile fun value => do
    let ranges ← (← value.toItems).mapM (CodeRange.ofValue "module_resolution_codes")
    return { profile with moduleResolutionCodes := ranges }
  let profile ← whenGiven written "permissive_markers" profile fun value => do
    return { profile with permissiveMarkers := ← value.toItems }
  let profile ← whenGiven written "dynamic_eval_markers" profile fun value => do
    return { profile with dynamicEvalMarkers := ← value.toItems }
  whenGiven written "infrastructure_markers" profile fun value => do
    return { profile with infrastructureMarkers := ← value.toItems }

/-- Read the weights. -/
def readWeights (weights : Weights Float) (written : Value) : Except Failure (Weights Float) := do
  let weights ← whenGiven written "code" weights fun value => do
    return { weights with code := ← value.toFloat }
  let weights ← whenGiven written "domain" weights fun value => do
    return { weights with domain := ← value.toFloat }
  let weights ← whenGiven written "security" weights fun value => do
    return { weights with security := ← value.toFloat }
  let weights ← whenGiven written "type_error_penalty" weights fun value => do
    return { weights with typeErrorPenalty := ← value.toFloat }
  let weights ← whenGiven written "subsystem_error_penalty" weights fun value => do
    return { weights with subsystemErrorPenalty := ← value.toFloat }
  let weights ← whenGiven written "vulnerability_penalty" weights fun value => do
    return { weights with vulnerabilityPenalty := ← value.toFloat }
  let weights ← whenGiven written "neutral_subsystem_score" weights fun value => do
    return { weights with neutralSubsystemScore := ← value.toFloat }
  whenGiven written "trend_tolerance" weights fun value => do
    return { weights with trendTolerance := ← value.toFloat }

/-- Read the quality section, which has to be a table. -/
def QualitySettings.readSection (quality : QualitySettings Float) (written : Value) :
    Except Failure (QualitySettings Float) := do
  let quality ← whenGiven written "complexity_score" quality fun value => do
    return { quality with complexity := some (← value.toFloat) }
  let quality ← whenGiven written "source_extensions" quality fun value => do
    return { quality with extensions := ← value.toItems }
  match written with
  | .table fields =>
      return { quality with
        weights := ← readWeights quality.weights (fieldOr fields "weights" (.table [])) }
  | _ => throw .notATable

/-- Read a configuration from the outermost table of its file. -/
def Config.ofFields (fields : List (String × Value)) : Except Failure (Config Float) := do
  let document := Value.table fields
  let config := Config.standard
  let config ← whenGiven document "general" config fun general =>
    whenGiven general "exclude" config fun value => return { config with exclude := value }
  let config ← whenGiven document "analysis" config fun analysis => do
    return { config with analysis := ← config.analysis.readSection analysis }
  let config ← whenGiven document "subsystems" config fun value => do
    let subsystems ← (← value.toItems).mapM Subsystem.ofValue
    return { config with analysis := { config.analysis with subsystems := subsystems } }
  let config ← whenGiven document "compiler" config fun compiler => do
    return { config with compiler := ← config.compiler.readSection compiler }
  let config ← whenGiven document "quality" config fun quality => do
    return { config with quality := ← config.quality.readSection quality }
  if config.analysis.maxDiagnostics.any (· < 0) then throw (.configuration .negativeLimit)
  return config

/-- Read the text of a configuration file. -/
def Config.ofText (text : String) : Except Failure (Config Float) :=
  match Toml.read text.toList with
  | .ok fields => Config.ofFields fields
  | .error misread =>
      match misread.fault with
      | .numberTooLong => .error .invalidValue
      | .nestedTooDeep => .error .nestedTooDeep
      | _ => .error (.configuration (.invalidFile (misread.message text.toList)))

/-- Load the configuration of the project at an absolute path; a project without a
configuration file has the standard one. -/
def Config.load (disk : Disk) (project : Path) : Except Failure (Config Float) := do
  let file := project.join (Path.parse configurationFileName)
  match disk.nodeOf file with
  | none => return Config.standard
  | some _ => Config.ofText (← Disk.decode (← disk.readBytes file))

end Triage
