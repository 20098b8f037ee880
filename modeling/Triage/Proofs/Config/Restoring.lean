import Triage.Config.Record
import Triage.Proofs.Config.Loading

/-!
# What a configuration file gives is restored

A configuration file gives some of the settings, each in its section, and may hold other keys and
sections beside them (`Config.Gives`).  Whatever the choice of settings is, a configuration can be
spelled out in such a file (`Config.gives_spelledOut`).

Reading a section goes through its settings one by one.  A setting that is given is put in its
place, one that is not leaves what was there, and neither touches another place
(`whenGiven_of_restores`); a section that is absent is read like one without entries
(`whenGiven_of_section`).  So loading the file restores the settings that it gives and leaves all
others at their defaults (`loading_restores_what_is_given`).
-/

namespace Triage

set_option autoImplicit false

/-! ## Settings and where they stand -/

/-- A setting that a configuration file may give. -/
inductive Setting where
  | exclude
  | maxDiagnostics
  | includeDependencies
  | subsystems
  | command
  | settingsFile
  | timeoutSeconds
  | parseRange
  | typeRange
  | moduleResolutionCodes
  | permissiveMarkers
  | dynamicEvalMarkers
  | infrastructureMarkers
  | complexity
  | extensions
  | codeWeight
  | domainWeight
  | securityWeight
  | typeErrorPenalty
  | subsystemErrorPenalty
  | vulnerabilityPenalty
  | neutralSubsystemScore
  | trendTolerance
deriving Repr, DecidableEq

/-- The entries of the section with a name; none where nothing, or no table, has that name. -/
def sectionOf (name : String) (fields : List (String × Value)) : List (String × Value) :=
  match OrderedMap.findIn name fields with
  | some (.table entries) => entries
  | _ => []

/-- Nothing but a table has the name of a section. -/
def IsSection (name : String) (fields : List (String × Value)) : Prop :=
  ∀ value, OrderedMap.findIn name fields = some value → ∃ entries, value = .table entries

namespace Setting

/-- The sections that a setting stands in, from the outermost on. -/
def within : Setting → List String
  | .subsystems => []
  | .exclude => ["general"]
  | .maxDiagnostics | .includeDependencies => ["analysis"]
  | .command | .settingsFile | .timeoutSeconds | .parseRange | .typeRange
  | .moduleResolutionCodes | .permissiveMarkers | .dynamicEvalMarkers
  | .infrastructureMarkers => ["compiler"]
  | .complexity | .extensions => ["quality"]
  | .codeWeight | .domainWeight | .securityWeight | .typeErrorPenalty | .subsystemErrorPenalty
  | .vulnerabilityPenalty | .neutralSubsystemScore | .trendTolerance => ["quality", "weights"]

/-- The key of a setting in its section. -/
def key : Setting → String
  | .exclude => "exclude"
  | .maxDiagnostics => "max_diagnostics"
  | .includeDependencies => "include_dependencies"
  | .subsystems => "subsystems"
  | .command => "command"
  | .settingsFile => "tsconfig"
  | .timeoutSeconds => "timeout_seconds"
  | .parseRange => "parse_range"
  | .typeRange => "type_range"
  | .moduleResolutionCodes => "module_resolution_codes"
  | .permissiveMarkers => "permissive_markers"
  | .dynamicEvalMarkers => "dynamic_eval_markers"
  | .infrastructureMarkers => "infrastructure_markers"
  | .complexity => "complexity_score"
  | .extensions => "source_extensions"
  | .codeWeight => "code"
  | .domainWeight => "domain"
  | .securityWeight => "security"
  | .typeErrorPenalty => "type_error_penalty"
  | .subsystemErrorPenalty => "subsystem_error_penalty"
  | .vulnerabilityPenalty => "vulnerability_penalty"
  | .neutralSubsystemScore => "neutral_subsystem_score"
  | .trendTolerance => "trend_tolerance"

/-- What the table of a file has for a setting. -/
def writtenIn (fields : List (String × Value)) (setting : Setting) : Option Value :=
  OrderedMap.findIn setting.key
    (setting.within.foldl (fun entries name => sectionOf name entries) fields)

/-- All settings. -/
def all : List Setting :=
  [.exclude, .maxDiagnostics, .includeDependencies, .subsystems, .command, .settingsFile,
    .timeoutSeconds, .parseRange, .typeRange, .moduleResolutionCodes, .permissiveMarkers,
    .dynamicEvalMarkers, .infrastructureMarkers, .complexity, .extensions, .codeWeight,
    .domainWeight, .securityWeight, .typeErrorPenalty, .subsystemErrorPenalty,
    .vulnerabilityPenalty, .neutralSubsystemScore, .trendTolerance]

/-- The settings that stand in a section. -/
def standingIn (names : List String) : List Setting := all.filter (·.within == names)

theorem mem_standingIn (setting : Setting) : setting ∈ standingIn setting.within := by
  cases setting <;> decide +kernel

/-- No two settings of a section have one key. -/
theorem nodup_keys (setting : Setting) : ((standingIn setting.within).map key).Nodup := by
  cases setting <;> decide +kernel

end Setting

/-! ## How settings are written -/

/-- A value is a floating-point number, or the whole number that it is the size of. -/
def Value.StandsFor (number : Float) : Value → Prop
  | .float written => written = number
  | .undefined _ => number = Decimal.notANumber
  | .int whole => Decimal.ofInt? whole = some number
  | _ => False

theorem Value.toFloat_of_standsFor {number : Float} {value : Value}
    (stands : value.StandsFor number) : value.toFloat = .ok number := by
  cases value with
  | float written => exact congrArg _ stands
  | undefined place => exact congrArg _ stands.symm
  | int whole =>
      rw [StandsFor] at stands
      rw [toFloat, stands]
  | null | bool | text | list | table | moment => exact stands.elim

/-- A table gives all there is to say of a subsystem; it may have other keys beside. -/
structure Subsystem.IsWritten (subsystem : Subsystem Float) (fields : List (String × Value)) :
    Prop where
  name : OrderedMap.findIn "name" fields = some subsystem.name
  keywords : OrderedMap.findIn "keywords" fields = some (.list subsystem.keywords)
  globs : OrderedMap.findIn "globs" fields = some (.list subsystem.globs)
  tier : OrderedMap.findIn "tier" fields = some (.text subsystem.tier.word)
  healthThreshold : ∃ value, OrderedMap.findIn "health_threshold" fields = some value ∧
    value.StandsFor subsystem.healthThreshold
  criticalThreshold :
    OrderedMap.findIn "critical_threshold" fields = some (.int subsystem.criticalThreshold)
  recommendation : OrderedMap.findIn "recommendation" fields = some subsystem.recommendation
  validationSteps :
    OrderedMap.findIn "validation_steps" fields = some (.list subsystem.validationSteps)

/-- **A subsystem is read back**, its keywords and globs being given. -/
theorem Subsystem.ofFields_of_isWritten {subsystem : Subsystem Float}
    {fields : List (String × Value)} (written : subsystem.IsWritten fields)
    (worded : subsystem.keywords ≠ []) (placed : subsystem.globs ≠ []) :
    ofFields fields = .ok subsystem := by
  obtain ⟨health, found, stands⟩ := written.healthThreshold
  have tier (name : Value) :
      Tier.ofValue (.text subsystem.tier.word) name = .ok subsystem.tier := by
    cases subsystem.tier <;> rfl
  have filled : subsystem.withDefaults = subsystem := by
    rw [withDefaults, if_neg (by simpa using worded), if_neg (by simpa using placed)]
  have given : subsystem.globs.isEmpty = false := by simpa using placed
  simp only [ofFields, fieldOr, written.name, written.keywords, written.globs, written.tier, found,
    written.criticalThreshold, written.recommendation, written.validationSteps, Option.getD_some,
    tier, Value.toItems, Value.toInt, Value.toFloat_of_standsFor stands, given, bind, Except.bind,
    pure, Except.pure, Bool.false_eq_true, if_false]
  exact congrArg Except.ok filled

theorem CodeRange.ofValue_toValue (setting : String) (range : CodeRange) :
    ofValue setting range.toValue = .ok range :=
  rfl

namespace Config

/-- What a file has for a setting is what the configuration has.  A complexity score that the
configuration leaves open cannot be written, so nothing stands for it. -/
def WritesAs (config : Config Float) (found : Option Value) : Setting → Prop
  | .exclude => found = some config.exclude
  | .maxDiagnostics => found = config.analysis.maxDiagnostics.map Value.int
  | .includeDependencies => found = some (.bool config.analysis.includeDependencies)
  | .subsystems => ∃ tables, found = some (.list (tables.map Value.table)) ∧
      List.Forall₂ Subsystem.IsWritten config.analysis.subsystems tables
  | .command => found = some (.list config.compiler.command)
  | .settingsFile => found = some config.compiler.settingsFile
  | .timeoutSeconds => found = some (.int config.compiler.timeoutSeconds)
  | .parseRange => found = some config.compiler.parseRange.toValue
  | .typeRange => found = some config.compiler.typeRange.toValue
  | .moduleResolutionCodes =>
      found = some (.list (config.compiler.moduleResolutionCodes.map CodeRange.toValue))
  | .permissiveMarkers => found = some (.list config.compiler.permissiveMarkers)
  | .dynamicEvalMarkers => found = some (.list config.compiler.dynamicEvalMarkers)
  | .infrastructureMarkers => found = some (.list config.compiler.infrastructureMarkers)
  | .complexity => Option.Rel (fun number value => value.StandsFor number)
      config.quality.complexity found
  | .extensions => found = some (.list config.quality.extensions)
  | .codeWeight => ∃ value, found = some value ∧ value.StandsFor config.quality.weights.code
  | .domainWeight => ∃ value, found = some value ∧ value.StandsFor config.quality.weights.domain
  | .securityWeight =>
      ∃ value, found = some value ∧ value.StandsFor config.quality.weights.security
  | .typeErrorPenalty =>
      ∃ value, found = some value ∧ value.StandsFor config.quality.weights.typeErrorPenalty
  | .subsystemErrorPenalty =>
      ∃ value, found = some value ∧ value.StandsFor config.quality.weights.subsystemErrorPenalty
  | .vulnerabilityPenalty =>
      ∃ value, found = some value ∧ value.StandsFor config.quality.weights.vulnerabilityPenalty
  | .neutralSubsystemScore =>
      ∃ value, found = some value ∧ value.StandsFor config.quality.weights.neutralSubsystemScore
  | .trendTolerance =>
      ∃ value, found = some value ∧ value.StandsFor config.quality.weights.trendTolerance

/-- The table of a file gives exactly the chosen settings of a configuration.  Other keys and
sections may stand beside them. -/
structure Gives (config : Config Float) (chosen : Setting → Bool)
    (fields : List (String × Value)) : Prop where
  given : ∀ setting, chosen setting = true → config.WritesAs (setting.writtenIn fields) setting
  absent : ∀ setting, chosen setting = false → setting.writtenIn fields = none
  tables : ∀ name ∈ ["general", "analysis", "compiler", "quality"], IsSection name fields
  weights : IsSection "weights" (sectionOf "quality" fields)

/-- A part of a configuration if its setting is chosen, and else its default. -/
def pick {Part : Type} (config : Config Float) (chosen : Setting → Bool) (setting : Setting)
    (part : Config Float → Part) : Part :=
  if chosen setting then part config else part .standard

/-- The configuration with the chosen settings, and defaults for all others. -/
def keep (config : Config Float) (chosen : Setting → Bool) : Config Float where
  exclude := config.pick chosen .exclude (·.exclude)
  analysis :=
    { includeDependencies :=
        config.pick chosen .includeDependencies (·.analysis.includeDependencies)
      maxDiagnostics := config.pick chosen .maxDiagnostics (·.analysis.maxDiagnostics)
      subsystems := config.pick chosen .subsystems (·.analysis.subsystems) }
  compiler :=
    { command := config.pick chosen .command (·.compiler.command)
      settingsFile := config.pick chosen .settingsFile (·.compiler.settingsFile)
      timeoutSeconds := config.pick chosen .timeoutSeconds (·.compiler.timeoutSeconds)
      parseRange := config.pick chosen .parseRange (·.compiler.parseRange)
      typeRange := config.pick chosen .typeRange (·.compiler.typeRange)
      moduleResolutionCodes :=
        config.pick chosen .moduleResolutionCodes (·.compiler.moduleResolutionCodes)
      permissiveMarkers := config.pick chosen .permissiveMarkers (·.compiler.permissiveMarkers)
      dynamicEvalMarkers := config.pick chosen .dynamicEvalMarkers (·.compiler.dynamicEvalMarkers)
      infrastructureMarkers :=
        config.pick chosen .infrastructureMarkers (·.compiler.infrastructureMarkers) }
  quality :=
    { complexity := config.pick chosen .complexity (·.quality.complexity)
      extensions := config.pick chosen .extensions (·.quality.extensions)
      weights :=
        { code := config.pick chosen .codeWeight (·.quality.weights.code)
          domain := config.pick chosen .domainWeight (·.quality.weights.domain)
          security := config.pick chosen .securityWeight (·.quality.weights.security)
          typeErrorPenalty :=
            config.pick chosen .typeErrorPenalty (·.quality.weights.typeErrorPenalty)
          subsystemErrorPenalty :=
            config.pick chosen .subsystemErrorPenalty (·.quality.weights.subsystemErrorPenalty)
          vulnerabilityPenalty :=
            config.pick chosen .vulnerabilityPenalty (·.quality.weights.vulnerabilityPenalty)
          neutralSubsystemScore :=
            config.pick chosen .neutralSubsystemScore (·.quality.weights.neutralSubsystemScore)
          trendTolerance :=
            config.pick chosen .trendTolerance (·.quality.weights.trendTolerance) } }

end Config

/-! ## Reading a setting -/

/-- What is found for a setting is read as a result, or there is none and it is the default. -/
def Restores {Part : Type} (found : Option Value) (read : Value → Except Failure Part)
    (default result : Part) : Prop :=
  (found = none ∧ result = default) ∨ ∃ value, found = some value ∧ read value = .ok result

/-- **A setting is put in its place.** The rest of the part is left as it was. -/
theorem whenGiven_of_restores {Whole Part : Type} {entries : List (String × Value)} {key : String}
    {whole : Whole} {change : Value → Except Failure Whole} (set : Whole → Part → Whole)
    {read : Value → Except Failure Part} {default result : Part}
    (restores : Restores (OrderedMap.findIn key entries) read default result)
    (kept : set whole default = whole)
    (changes : ∀ value, change value = read value >>= fun part => pure (set whole part)) :
    whenGiven (.table entries) key whole change = .ok (set whole result) := by
  rcases restores with ⟨absent, rfl⟩ | ⟨value, found, given⟩
  · rw [whenGiven, Value.lookup, absent, kept]
    rfl
  · rw [whenGiven, Value.lookup, found]
    change change value = _
    rw [changes, given]
    rfl

/-- A setting is put in its place, and then the others are read. -/
theorem whenGiven_bind_of_restores {Whole Part Result : Type} {entries : List (String × Value)}
    {key : String} {whole : Whole} {change : Value → Except Failure Whole}
    {next : Whole → Except Failure Result} {answer : Result} (set : Whole → Part → Whole)
    {read : Value → Except Failure Part} {default result : Part}
    (restores : Restores (OrderedMap.findIn key entries) read default result)
    (kept : set whole default = whole)
    (changes : ∀ value, change value = read value >>= fun part => pure (set whole part))
    (further : next (set whole result) = .ok answer) :
    (whenGiven (.table entries) key whole change >>= next) = .ok answer := by
  rw [whenGiven_of_restores set restores kept changes]
  exact further

/-- **A section is read like a table**: one that is absent is read like one without entries. -/
theorem whenGiven_of_section {Whole : Type} {fields : List (String × Value)} {name : String}
    {whole result : Whole} {change : Value → Except Failure Whole} (table : IsSection name fields)
    (idle : change (.table []) = .ok whole)
    (reads : change (.table (sectionOf name fields)) = .ok result) :
    whenGiven (.table fields) name whole change = .ok result := by
  rw [whenGiven, Value.lookup]
  rw [sectionOf] at reads
  cases found : OrderedMap.findIn name fields with
  | none =>
      rw [found] at reads
      exact idle.symm.trans reads
  | some value =>
      obtain ⟨entries, rfl⟩ := table value found
      rw [found] at reads
      exact reads

theorem fieldOr_of_section {fields : List (String × Value)} {name : String}
    (table : IsSection name fields) :
    fieldOr fields name (.table []) = .table (sectionOf name fields) := by
  rw [fieldOr, sectionOf]
  cases found : OrderedMap.findIn name fields with
  | none => rfl
  | some value =>
      obtain ⟨entries, rfl⟩ := table value found
      rfl

/-- What is written for a setting is read. -/
theorem Restores.of_read {Part : Type} {found : Option Value} {value : Value}
    {read : Value → Except Failure Part} {default result : Part} (written : found = some value)
    (given : read value = .ok result) : Restores found read default result :=
  .inr ⟨value, written, given⟩

/-- A number that is written for a setting is read. -/
theorem Restores.of_number {found : Option Value} {number default : Float}
    (written : ∃ value, found = some value ∧ value.StandsFor number) :
    Restores found Value.toFloat default number := by
  obtain ⟨value, found, stands⟩ := written
  exact .of_read found (Value.toFloat_of_standsFor stands)

namespace Config

variable {config : Config Float} {chosen : Setting → Bool} {fields : List (String × Value)}

/-- A setting is restored if it is chosen and keeps its default if it is not. -/
theorem Gives.restores {Part : Type} (gives : config.Gives chosen fields) (setting : Setting)
    (part : Config Float → Part) (read : Value → Except Failure Part)
    (reads : ∀ found, config.WritesAs found setting →
      Restores found read (part .standard) (part config)) :
    Restores (setting.writtenIn fields) read (part .standard)
      (config.pick chosen setting part) := by
  rw [pick]
  cases told : chosen setting with
  | true => exact reads _ (gives.given setting told)
  | false => exact .inl ⟨gives.absent setting told, rfl⟩

/-- The general section is read. -/
theorem Gives.readGeneral (gives : config.Gives chosen fields) :
    (whenGiven (.table (sectionOf "general" fields)) "exclude" (standard : Config Float)
      fun value => return { standard with exclude := value }) =
      .ok { standard with exclude := (config.keep chosen).exclude } :=
  whenGiven_of_restores (fun (whole : Config Float) value => { whole with exclude := value })
    (gives.restores .exclude (·.exclude) .ok fun _ written => .of_read written rfl)
    rfl fun _ => rfl

/-- The analysis section is read. -/
theorem Gives.readAnalysis (gives : config.Gives chosen fields) {limit : Int}
    (limited : config.analysis.maxDiagnostics = some limit) :
    Options.readSection {} (.table (sectionOf "analysis" fields)) =
      .ok { (config.keep chosen).analysis with subsystems := [] } := by
  have stands : Restores (Setting.maxDiagnostics.writtenIn fields)
      (fun value => some <$> value.toInt) (some 100)
      (config.keep chosen).analysis.maxDiagnostics :=
    gives.restores .maxDiagnostics (·.analysis.maxDiagnostics) _ fun found written =>
      .inr ⟨.int limit, written.trans (congrArg _ limited), congrArg Except.ok limited.symm⟩
  refine whenGiven_bind_of_restores
    (fun (whole : Options Float) number => { whole with maxDiagnostics := number })
    stands rfl (fun value => ?_) ?_
  · cases value.toInt <;> rfl
  · exact whenGiven_of_restores
      (fun (whole : Options Float) told => { whole with includeDependencies := told })
      (gives.restores .includeDependencies (·.analysis.includeDependencies)
        (fun value => .ok value.isTruthy) fun _ written => .of_read written rfl)
      rfl fun _ => rfl

/-- The compiler section is read. -/
theorem Gives.readCompiler (gives : config.Gives chosen fields) :
    Profile.readSection {} (.table (sectionOf "compiler" fields)) =
      .ok (config.keep chosen).compiler := by
  -- No step touches what a later one sets, so a later setting that is absent finds its default.
  refine whenGiven_bind_of_restores
    (fun (whole : Profile) command => { whole with command := command })
    (gives.restores .command (·.compiler.command) commandOfValue
      fun _ written => .of_read written rfl) rfl (fun _ => rfl) ?_
  refine whenGiven_bind_of_restores
    (fun (whole : Profile) file => { whole with settingsFile := file })
    (gives.restores .settingsFile (·.compiler.settingsFile) .ok
      fun _ written => .of_read written rfl) rfl (fun _ => rfl) ?_
  refine whenGiven_bind_of_restores
    (fun (whole : Profile) seconds => { whole with timeoutSeconds := seconds })
    (gives.restores .timeoutSeconds (·.compiler.timeoutSeconds) Value.toInt
      fun _ written => .of_read written rfl) rfl (fun _ => rfl) ?_
  refine whenGiven_bind_of_restores
    (fun (whole : Profile) range => { whole with parseRange := range })
    (gives.restores .parseRange (·.compiler.parseRange) (CodeRange.ofValue "parse_range")
      fun _ written => .of_read written rfl) rfl (fun _ => rfl) ?_
  refine whenGiven_bind_of_restores
    (fun (whole : Profile) range => { whole with typeRange := range })
    (gives.restores .typeRange (·.compiler.typeRange) (CodeRange.ofValue "type_range")
      fun _ written => .of_read written rfl) rfl (fun _ => rfl) ?_
  refine whenGiven_bind_of_restores
    (fun (whole : Profile) ranges => { whole with moduleResolutionCodes := ranges })
    (gives.restores .moduleResolutionCodes (·.compiler.moduleResolutionCodes) _
      fun _ written => .of_read written ?codes) rfl (fun _ => (bind_assoc ..).symm) ?_
  case codes =>
    refine mapM_eq_ok_iff.2 (List.forall₂_map_left_iff.2 (List.forall₂_same.2 fun range _ => ?_))
    exact range.ofValue_toValue _
  refine whenGiven_bind_of_restores
    (fun (whole : Profile) markers => { whole with permissiveMarkers := markers })
    (gives.restores .permissiveMarkers (·.compiler.permissiveMarkers) Value.toItems
      fun _ written => .of_read written rfl) rfl (fun _ => rfl) ?_
  refine whenGiven_bind_of_restores
    (fun (whole : Profile) markers => { whole with dynamicEvalMarkers := markers })
    (gives.restores .dynamicEvalMarkers (·.compiler.dynamicEvalMarkers) Value.toItems
      fun _ written => .of_read written rfl) rfl (fun _ => rfl) ?_
  exact whenGiven_of_restores
    (fun (whole : Profile) markers => { whole with infrastructureMarkers := markers })
    (gives.restores .infrastructureMarkers (·.compiler.infrastructureMarkers) Value.toItems
      fun _ written => .of_read written rfl) rfl fun _ => rfl

/-- The weights are read. -/
theorem Gives.readWeights (gives : config.Gives chosen fields) :
    Triage.readWeights .standard (.table (sectionOf "weights" (sectionOf "quality" fields))) =
      .ok (config.keep chosen).quality.weights := by
  refine whenGiven_bind_of_restores
    (fun (whole : Weights Float) weight => { whole with code := weight })
    (gives.restores .codeWeight (·.quality.weights.code) Value.toFloat fun _ => .of_number)
    rfl (fun _ => rfl) ?_
  refine whenGiven_bind_of_restores
    (fun (whole : Weights Float) weight => { whole with domain := weight })
    (gives.restores .domainWeight (·.quality.weights.domain) Value.toFloat fun _ => .of_number)
    rfl (fun _ => rfl) ?_
  refine whenGiven_bind_of_restores
    (fun (whole : Weights Float) weight => { whole with security := weight })
    (gives.restores .securityWeight (·.quality.weights.security) Value.toFloat fun _ => .of_number)
    rfl (fun _ => rfl) ?_
  refine whenGiven_bind_of_restores
    (fun (whole : Weights Float) penalty => { whole with typeErrorPenalty := penalty })
    (gives.restores .typeErrorPenalty (·.quality.weights.typeErrorPenalty) Value.toFloat
      fun _ => .of_number)
    rfl (fun _ => rfl) ?_
  refine whenGiven_bind_of_restores
    (fun (whole : Weights Float) penalty => { whole with subsystemErrorPenalty := penalty })
    (gives.restores .subsystemErrorPenalty (·.quality.weights.subsystemErrorPenalty) Value.toFloat
      fun _ => .of_number)
    rfl (fun _ => rfl) ?_
  refine whenGiven_bind_of_restores
    (fun (whole : Weights Float) penalty => { whole with vulnerabilityPenalty := penalty })
    (gives.restores .vulnerabilityPenalty (·.quality.weights.vulnerabilityPenalty) Value.toFloat
      fun _ => .of_number)
    rfl (fun _ => rfl) ?_
  refine whenGiven_bind_of_restores
    (fun (whole : Weights Float) score => { whole with neutralSubsystemScore := score })
    (gives.restores .neutralSubsystemScore (·.quality.weights.neutralSubsystemScore) Value.toFloat
      fun _ => .of_number)
    rfl (fun _ => rfl) ?_
  exact whenGiven_of_restores
    (fun (whole : Weights Float) tolerance => { whole with trendTolerance := tolerance })
    (gives.restores .trendTolerance (·.quality.weights.trendTolerance) Value.toFloat
      fun _ => .of_number)
    rfl fun _ => rfl

/-- The quality section is read. -/
theorem Gives.readQuality (gives : config.Gives chosen fields) :
    QualitySettings.readSection .standard (.table (sectionOf "quality" fields)) =
      .ok (config.keep chosen).quality := by
  have scored : Restores (Setting.complexity.writtenIn fields) (fun value => some <$> value.toFloat)
      none (config.keep chosen).quality.complexity := by
    refine gives.restores .complexity (·.quality.complexity) _ fun found written => ?_
    rw [WritesAs] at written
    revert written
    cases config.quality.complexity with
    | none =>
      rintro ⟨⟩
      exact .inl ⟨rfl, rfl⟩
    | some number =>
      rintro ⟨stands⟩
      exact .of_read rfl (congrArg (some <$> ·) (Value.toFloat_of_standsFor stands))
  refine whenGiven_bind_of_restores
    (fun (whole : QualitySettings Float) score => { whole with complexity := score })
    scored rfl (fun value => ?_) ?_
  · cases value.toFloat <;> rfl
  refine whenGiven_bind_of_restores
    (fun (whole : QualitySettings Float) suffixes => { whole with extensions := suffixes })
    (gives.restores .extensions (·.quality.extensions) Value.toItems
      fun _ written => .of_read written rfl) rfl (fun _ => rfl) ?_
  refine bind_eq_ok.2 ⟨(config.keep chosen).quality.weights, ?_, rfl⟩
  rw [fieldOr_of_section gives.weights]
  exact gives.readWeights

/-- The subsystems are read. -/
theorem Gives.restores_subsystems (gives : config.Gives chosen fields)
    (filled : ∀ subsystem ∈ config.analysis.subsystems,
      subsystem.keywords ≠ [] ∧ subsystem.globs ≠ []) :
    Restores (OrderedMap.findIn "subsystems" fields)
      (fun value => value.toItems >>= fun items => items.mapM Subsystem.ofValue)
      [] (config.keep chosen).analysis.subsystems := by
  refine gives.restores .subsystems (·.analysis.subsystems) _ fun found written => ?_
  obtain ⟨tables, written, each⟩ := written
  refine .of_read written (mapM_eq_ok_iff.2 (List.forall₂_map_left_iff.2 ?_))
  exact (((List.forall₂_and_left _ _).2 ⟨filled, each⟩).imp fun _ _ told =>
    Subsystem.ofFields_of_isWritten told.2 told.1.1 told.1.2).flip

/-- The sections are read one after the other. -/
theorem Gives.readSections (gives : config.Gives chosen fields) {limit : Int}
    (limited : config.analysis.maxDiagnostics = some limit)
    (filled : ∀ subsystem ∈ config.analysis.subsystems,
      subsystem.keywords ≠ [] ∧ subsystem.globs ≠ []) :
    Config.readSections fields = .ok (config.keep chosen) := by
  refine bind_eq_ok.2
    ⟨_, whenGiven_of_section (gives.tables "general" (by simp)) rfl gives.readGeneral, ?_⟩
  refine bind_eq_ok.2 ⟨_, whenGiven_of_section (gives.tables "analysis" (by simp)) rfl
    (bind_eq_ok.2 ⟨_, gives.readAnalysis limited, rfl⟩), ?_⟩
  refine whenGiven_bind_of_restores
    (fun (whole : Config Float) subsystems =>
      { whole with analysis := { whole.analysis with subsystems := subsystems } })
    (gives.restores_subsystems filled) rfl (fun _ => (bind_assoc ..).symm) ?_
  refine bind_eq_ok.2 ⟨_, whenGiven_of_section (gives.tables "compiler" (by simp)) rfl
    (bind_eq_ok.2 ⟨_, gives.readCompiler, rfl⟩), ?_⟩
  exact whenGiven_of_section (gives.tables "quality" (by simp)) rfl
    (bind_eq_ok.2 ⟨_, gives.readQuality, rfl⟩)

/-- **The fields of a configuration file are read as what they give.** -/
theorem Gives.ofFields (gives : config.Gives chosen fields) {limit : Int}
    (limited : config.analysis.maxDiagnostics = some limit) (nonneg : 0 ≤ limit)
    (filled : ∀ subsystem ∈ config.analysis.subsystems,
      subsystem.keywords ≠ [] ∧ subsystem.globs ≠ []) :
    Config.ofFields fields = .ok (config.keep chosen) := by
  have within : (config.keep chosen).analysis.maxDiagnostics.any (· < 0) = false := by
    change (config.pick chosen .maxDiagnostics (·.analysis.maxDiagnostics)).any (· < 0) = false
    rw [pick, limited]
    split
    · simpa using nonneg
    · rfl
  rw [ofFields_eq, gives.readSections limited filled]
  simp only [bind, Except.bind, within, Bool.false_eq_true, if_false]
  rfl

/-! ## Spelling a configuration out -/

/-- What can be written for a setting, if there is something to write. -/
def spell (config : Config Float) : Setting → Option Value
  | .exclude => some config.exclude
  | .maxDiagnostics => config.analysis.maxDiagnostics.map Value.int
  | .includeDependencies => some (.bool config.analysis.includeDependencies)
  | .subsystems => some (.list ((config.analysis.subsystems.map fun subsystem =>
      subsystem.fields ++ subsystem.remedyFields).map Value.table))
  | .command => some (.list config.compiler.command)
  | .settingsFile => some config.compiler.settingsFile
  | .timeoutSeconds => some (.int config.compiler.timeoutSeconds)
  | .parseRange => some config.compiler.parseRange.toValue
  | .typeRange => some config.compiler.typeRange.toValue
  | .moduleResolutionCodes =>
      some (.list (config.compiler.moduleResolutionCodes.map CodeRange.toValue))
  | .permissiveMarkers => some (.list config.compiler.permissiveMarkers)
  | .dynamicEvalMarkers => some (.list config.compiler.dynamicEvalMarkers)
  | .infrastructureMarkers => some (.list config.compiler.infrastructureMarkers)
  | .complexity => config.quality.complexity.map Value.float
  | .extensions => some (.list config.quality.extensions)
  | .codeWeight => some (.float config.quality.weights.code)
  | .domainWeight => some (.float config.quality.weights.domain)
  | .securityWeight => some (.float config.quality.weights.security)
  | .typeErrorPenalty => some (.float config.quality.weights.typeErrorPenalty)
  | .subsystemErrorPenalty => some (.float config.quality.weights.subsystemErrorPenalty)
  | .vulnerabilityPenalty => some (.float config.quality.weights.vulnerabilityPenalty)
  | .neutralSubsystemScore => some (.float config.quality.weights.neutralSubsystemScore)
  | .trendTolerance => some (.float config.quality.weights.trendTolerance)

theorem writesAs_spell (config : Config Float) (setting : Setting) :
    config.WritesAs (config.spell setting) setting := by
  cases setting with
  | subsystems =>
      refine ⟨_, rfl, List.forall₂_map_right_iff.2 (List.forall₂_same.2 fun subsystem _ => ?_)⟩
      exact ⟨rfl, rfl, rfl, rfl, ⟨_, rfl, rfl⟩, rfl, rfl, rfl⟩
  | complexity =>
      rw [WritesAs, spell]
      cases config.quality.complexity with
      | none => exact .none
      | some number => exact .some rfl
  | codeWeight | domainWeight | securityWeight | typeErrorPenalty | subsystemErrorPenalty
  | vulnerabilityPenalty | neutralSubsystemScore | trendTolerance => exact ⟨_, rfl, rfl⟩
  | _ => rfl

/-- The entries for those of some settings that are chosen. -/
def entries (config : Config Float) (chosen : Setting → Bool) (settings : List Setting) :
    List (String × Value) :=
  settings.filterMap fun setting =>
    if chosen setting then (config.spell setting).map fun value => (setting.key, value) else none

/-- A table that gives the chosen settings and holds nothing else. -/
def spelledOut (config : Config Float) (chosen : Setting → Bool) : List (String × Value) :=
  let inside (names : List String) := config.entries chosen (Setting.standingIn names)
  [("general", .table (inside ["general"])), ("analysis", .table (inside ["analysis"])),
    ("compiler", .table (inside ["compiler"])),
    ("quality", .table (("weights", .table (inside ["quality", "weights"])) :: inside ["quality"]))]
    ++ inside []

theorem findIn_entries_cons (name : String) (first : Setting) (rest : List Setting) :
    OrderedMap.findIn name (config.entries chosen (first :: rest)) =
      if first.key = name then
        (if chosen first then config.spell first else none).or
          (OrderedMap.findIn name (config.entries chosen rest))
      else OrderedMap.findIn name (config.entries chosen rest) := by
  rw [entries, List.filterMap_cons]
  cases chosen first with
  | false => simp [entries]
  | true => cases config.spell first <;> simp [entries, OrderedMap.findIn]

theorem findIn_entries_of_not_mem {name : String} {settings : List Setting}
    (absent : name ∉ settings.map Setting.key) :
    OrderedMap.findIn name (config.entries chosen settings) = none := by
  induction settings with
  | nil => rfl
  | cons first rest ih =>
      obtain ⟨differs, others⟩ := not_or.1 (mt List.mem_cons.2 absent)
      rw [findIn_entries_cons, if_neg (Ne.symm differs), ih others]

/-- A setting is found in its section as it is written, if it is chosen. -/
theorem findIn_entries (config : Config Float) (chosen : Setting → Bool)
    {settings : List Setting} (distinct : (settings.map Setting.key).Nodup)
    {setting : Setting} (member : setting ∈ settings) :
    OrderedMap.findIn setting.key (config.entries chosen settings) =
      if chosen setting then config.spell setting else none := by
  induction settings with
  | nil => cases member
  | cons first rest ih =>
      obtain ⟨apart, others⟩ := List.nodup_cons.1 distinct
      rcases List.mem_cons.1 member with rfl | behind
      · rw [findIn_entries_cons, if_pos rfl, findIn_entries_of_not_mem apart, Option.or_none]
      · have differs : first.key ≠ setting.key :=
          fun same => apart (same ▸ List.mem_map_of_mem behind)
        rw [findIn_entries_cons, if_neg differs, ih others behind]

theorem writtenIn_spelledOut (setting : Setting) :
    setting.writtenIn (config.spelledOut chosen) =
      if chosen setting then config.spell setting else none := by
  have found := findIn_entries config chosen setting.nodup_keys
    setting.mem_standingIn
  cases setting <;> exact found

/-- **Every choice of settings can be spelled out.** -/
theorem gives_spelledOut (config : Config Float) (chosen : Setting → Bool) :
    config.Gives chosen (config.spelledOut chosen) where
  given setting told := by
    rw [writtenIn_spelledOut, if_pos told]
    exact config.writesAs_spell setting
  absent setting told := by rw [writtenIn_spelledOut, told]; rfl
  tables name member value found := by
    simp only [List.mem_cons, List.not_mem_nil, or_false] at member
    rcases member with rfl | rfl | rfl | rfl <;> exact ⟨_, (Option.some.inj found).symm⟩
  weights value found := ⟨_, (Option.some.inj found).symm⟩

end Config

/-! ## Loading the file -/

/-- **Loading restores what is given.** For every configuration whose limit is not negative and
whose subsystems have keywords and globs, and every choice of settings: there is a table that gives
the chosen settings, and every such table, whatever else it holds, is read as the configuration with
the chosen settings and with defaults for all others.  So is a configuration file that says such a
table. -/
theorem loading_restores_what_is_given (config : Config Float) (limit : Int)
    (limited : config.analysis.maxDiagnostics = some limit) (nonneg : 0 ≤ limit)
    (filled : ∀ subsystem ∈ config.analysis.subsystems,
      subsystem.keywords ≠ [] ∧ subsystem.globs ≠ [])
    (chosen : Setting → Bool) :
    config.Gives chosen (config.spelledOut chosen) ∧
      ∀ fields, config.Gives chosen fields →
        Config.ofFields fields = .ok (config.keep chosen) ∧
          ∀ (disk : Disk) (project : Path) (text : String), Toml.read text.toList = .ok fields →
            disk.readBytes (Config.file project) = .ok text.toUTF8 →
              Config.load disk project = .ok (config.keep chosen) := by
  refine ⟨config.gives_spelledOut chosen, fun fields gives => ?_⟩
  have restored := gives.ofFields limited nonneg filled
  refine ⟨restored, fun disk project text read written => ?_⟩
  rw [Config.load_of_readBytes written, Config.ofText, read]
  exact restored

/-- A configuration with a limit, a range of codes and a subsystem. -/
def limitedConfig : Config Float :=
  { Config.standard with
    analysis :=
      { maxDiagnostics := some 7, subsystems := [.designate "Payments" ["payment"] .primary] }
    compiler := { parseRange := ⟨1, 9⟩ } }

/-- Of the settings, the limit and the range. -/
def limitAndRange (setting : Setting) : Bool :=
  setting = .maxDiagnostics || setting = .parseRange

/-- A configuration file with the limit and the range, and with a key and a section that have no
meaning. -/
def limitedText : String :=
  "colour = \"blue\"\n[analysis]\nlevel = 3\nmax_diagnostics = 7\n" ++
    "[compiler]\nparse_range = [1, 9]\n[extra]\n"

/-- The table that the file says. -/
def limitedFields : List (String × Value) :=
  [("colour", .text "blue"), ("analysis", .table [("level", .int 3), ("max_diagnostics", .int 7)]),
    ("compiler", .table [("parse_range", .list [.int 1, .int 9])]), ("extra", .table [])]

/-- Whether a table is the one that the file says. -/
def isLimitedFields : List (String × Value) → Bool
  | [("colour", .text "blue"),
      ("analysis", .table [("level", .int 3), ("max_diagnostics", .int 7)]),
      ("compiler", .table [("parse_range", .list [.int 1, .int 9])]), ("extra", .table [])] => true
  | _ => false

theorem read_limitedText : Toml.read limitedText.toList = .ok limitedFields := by
  have passed : (Toml.read limitedText.toList).toOption.any isLimitedFields = true := by
    decide +kernel
  cases read : Toml.read limitedText.toList with
  | error misread =>
      rw [read] at passed
      cases passed
  | ok fields =>
      rw [read] at passed
      change isLimitedFields fields = true at passed
      unfold isLimitedFields at passed
      split at passed
      · rfl
      · cases passed

theorem gives_limitedFields : limitedConfig.Gives limitAndRange limitedFields where
  given setting told := by
    cases setting with
    | maxDiagnostics | parseRange => rfl
    | _ => cases told
  absent setting told := by
    cases setting with
    | maxDiagnostics | parseRange => cases told
    | _ => rfl
  tables name member value found := by
    simp only [List.mem_cons, List.not_mem_nil, or_false] at member
    rcases member with rfl | rfl | rfl | rfl
    · cases found
    · exact ⟨_, (Option.some.inj found).symm⟩
    · exact ⟨_, (Option.some.inj found).symm⟩
    · cases found
  weights value found := by cases found

/-- The file is loaded with its limit and its range; what it does not give is as by default. -/
theorem loading_limitedText_restores_its_settings :
    limitedConfig.analysis.maxDiagnostics = some 7 ∧ (0 : Int) ≤ 7 ∧
      (∀ subsystem ∈ limitedConfig.analysis.subsystems,
        subsystem.keywords ≠ [] ∧ subsystem.globs ≠ []) ∧
      ∃ config, Config.load (Disk.empty.put [configurationFileName] (.file limitedText.toUTF8))
          (Path.ofPlace []) = .ok config ∧
        config.analysis.maxDiagnostics = some 7 ∧ config.compiler.parseRange = ⟨1, 9⟩ ∧
        config.compiler.typeRange = ⟨2000, 2999⟩ ∧ config.analysis.subsystems.length = 0 := by
  have filled : ∀ subsystem ∈ limitedConfig.analysis.subsystems,
      subsystem.keywords ≠ [] ∧ subsystem.globs ≠ [] := by
    intro subsystem member
    cases List.mem_singleton.1 member
    exact ⟨nofun, nofun⟩
  obtain ⟨-, reads⟩ :=
    loading_restores_what_is_given limitedConfig 7 rfl (by decide) filled limitAndRange
  obtain ⟨-, loads⟩ := reads limitedFields gives_limitedFields
  exact ⟨rfl, by decide, filled, _, loads _ _ limitedText read_limitedText rfl, rfl, rfl, rfl, rfl⟩

end Triage
