import Triage.Proofs.Config.Reception
import Triage.Proofs.Disk

/-!
# Which configurations are reported

The settings that a configuration file may have are listed section by section, each with the rule
by which its value is received (`analysisSettings` and its kind).  Where a value stands in the
place of a section, the keys are asked of it as of a table: a text or a list that does not hold a
key passes for a section without it, and nothing else passes (`Value.settingReception`).

Reading a configuration is the list of these settings from the first to the last, and behind them
the limit, which must not be negative (`Config.received_ofFields`).  So a file is received as the
first of its settings that is not accepted (`Config.received_load`).  Only a range that is no pair,
a subsystem without a name, a tier that is none and a negative limit are reported.
-/

namespace Triage

set_option autoImplicit false

open Reception

/-! ## Sections -/

/-- A key of a section and how its value is received. -/
abbrev SettingRule := String × (Value → Reception)

/-- A setting that may have any value. -/
def anyReception : Value → Reception := fun _ => accepted

namespace Value

/-- How a setting is received in what stands in the place of its section. -/
def settingReception (written : Value) (rule : SettingRule) : Reception :=
  match written with
  | .table fields =>
      match OrderedMap.findIn rule.1 fields with
      | none => accepted
      | some value => rule.2 value
  | .text content => if Text.occurs rule.1 content then unreported else accepted
  | .list items => if items.any (isText rule.1) then unreported else accepted
  | .null | .bool _ | .int _ | .float _ | .undefined _ | .moment _ => unreported

/-- A section is received setting by setting. -/
def sectionReception (rules : List SettingRule) (written : Value) : Reception :=
  first (rules.map written.settingReception)

/-- A section is refused by the first of its settings that is. -/
theorem sectionReception_eq_iff {rules : List SettingRule} {written : Value} {refused : Reception}
    (refuses : refused ≠ accepted) :
    written.sectionReception rules = refused ↔ ∃ before rule behind,
      rules = before ++ rule :: behind ∧
        (∀ other ∈ before, written.settingReception other = accepted) ∧
        written.settingReception rule = refused := by
  rw [sectionReception, first_eq_iff refuses]
  constructor
  · rintro ⟨before, behind, parts, fine⟩
    obtain ⟨early, late, rfl, rfl, others⟩ := List.map_eq_append_iff.1 parts
    obtain ⟨rule, rest, rfl, here, rfl⟩ := List.map_eq_cons_iff.1 others
    exact ⟨early, rule, rest, rfl, List.forall_mem_map.1 fine, here⟩
  · rintro ⟨before, rule, behind, rfl, fine, rfl⟩
    refine ⟨before.map written.settingReception, behind.map written.settingReception, ?_,
      List.forall_mem_map.2 fine⟩
    rw [List.map_append, List.map_cons]

/-- A section without entries is accepted. -/
theorem sectionReception_empty (rules : List SettingRule) :
    (table []).sectionReception rules = accepted := by
  refine first_eq_accepted_iff.2 fun reception member => ?_
  obtain ⟨rule, _, rfl⟩ := List.mem_map.1 member
  rfl

end Value

section WhenGiven

variable {Part : Type} {written : Value} {key : String} {part result : Part}
  {change : Value → Except Failure Part}

/-- A setting is read as its rule says. -/
theorem received_whenGiven {received : Value → Reception}
    (each : ∀ value, Received (change value) (received value)) :
    Received (whenGiven written key part change) (written.settingReception (key, received)) := by
  cases written with
  | table fields =>
      simp only [whenGiven, Value.lookup, Value.settingReception, bind, Except.bind]
      cases OrderedMap.findIn key fields with
      | none => exact .accepted part
      | some value => exact each value
  | text content =>
      simp only [whenGiven, Value.lookup, Value.settingReception]
      split
      · exact .unreported rfl
      · exact .accepted part
  | list items =>
      simp only [whenGiven, Value.lookup, Value.settingReception]
      split
      · exact .unreported rfl
      · exact .accepted part
  | null | bool | int | float | undefined | moment => exact .unreported rfl

/-- A setting is read, and then the others are. -/
theorem received_whenGiven_bind {Result : Type} {next : Part → Except Failure Result}
    {received : Value → Reception} {rules : List SettingRule}
    (each : ∀ value, Received (change value) (received value))
    (behind : ∀ changed, Received (next changed) (written.sectionReception rules)) :
    Received (whenGiven written key part change >>= next)
      (written.sectionReception ((key, received) :: rules)) :=
  (received_whenGiven each).bind fun changed _ => behind changed

/-- The last setting of a section. -/
theorem received_whenGiven_last {received : Value → Reception}
    (each : ∀ value, Received (change value) (received value)) :
    Received (whenGiven written key part change) (written.sectionReception [(key, received)]) := by
  rw [Value.sectionReception, List.map_singleton, first_singleton]
  exact received_whenGiven each

/-- A part that was read is as it was, or as its setting makes it. -/
theorem whenGiven_eq_ok (read : whenGiven written key part change = .ok result) :
    (written.lookup key = .ok none ∧ part = result) ∨
      ∃ value, written.lookup key = .ok (some value) ∧ change value = .ok result := by
  obtain ⟨found, looked, further⟩ := bind_eq_ok.1 read
  cases found with
  | none => exact .inl ⟨looked, Except.ok.inj further⟩
  | some value => exact .inr ⟨value, looked, further⟩

end WhenGiven

/-- A field that has an accepted default is received as a setting. -/
theorem received_fieldOr {Result : Type} {read : Value → Except Failure Result}
    {received : Value → Reception} (each : ∀ value, Received (read value) (received value))
    {default : Value} (standard : received default = accepted) (fields : List (String × Value))
    (key : String) :
    Received (read (fieldOr fields key default))
      ((Value.table fields).settingReception (key, received)) := by
  have rule : received (fieldOr fields key default) =
      (Value.table fields).settingReception (key, received) := by
    rw [fieldOr, Value.settingReception]
    cases OrderedMap.findIn key fields with
    | none => exact standard
    | some value => rfl
  exact rule ▸ each _

/-! ## The settings of each section -/

/-- The settings of the analysis. -/
def analysisSettings : List SettingRule :=
  [("max_diagnostics", Value.wholeReception), ("include_dependencies", anyReception)]

/-- The settings of the compiler. -/
def compilerSettings : List SettingRule :=
  [("command", Value.itemsReception), ("tsconfig", anyReception),
    ("timeout_seconds", Value.wholeReception), ("parse_range", Value.rangeReception),
    ("type_range", Value.rangeReception),
    ("module_resolution_codes", Value.eachReception Value.rangeReception),
    ("permissive_markers", Value.itemsReception), ("dynamic_eval_markers", Value.itemsReception),
    ("infrastructure_markers", Value.itemsReception)]

/-- The weights and penalties. -/
def weightSettings : List SettingRule :=
  ["code", "domain", "security", "type_error_penalty", "subsystem_error_penalty",
    "vulnerability_penalty", "neutral_subsystem_score", "trend_tolerance"].map fun key =>
      (key, Value.numberReception)

/-- The settings of the quality score beside the weights. -/
def qualitySettings : List SettingRule :=
  [("complexity_score", Value.numberReception), ("source_extensions", Value.itemsReception)]

/-- The fields of a subsystem behind its name and its tier. -/
def subsystemSettings : List SettingRule :=
  [("keywords", Value.itemsReception), ("globs", Value.itemsReception),
    ("health_threshold", Value.numberReception), ("critical_threshold", Value.wholeReception),
    ("validation_steps", Value.itemsReception)]

theorem received_readAnalysis (options : Options Float) (written : Value) :
    Received (options.readSection written) (written.sectionReception analysisSettings) :=
  received_whenGiven_bind (fun value => value.received_toInt.map _) fun _ =>
    received_whenGiven_last fun _ => .accepted _

theorem received_readCompiler (profile : Profile) (written : Value) :
    Received (profile.readSection written) (written.sectionReception compilerSettings) := by
  refine received_whenGiven_bind (fun value => value.received_commandOfValue.map _) fun _ => ?_
  refine received_whenGiven_bind (fun value => .accepted _) fun _ => ?_
  refine received_whenGiven_bind (fun value => value.received_toInt.map _) fun _ => ?_
  refine received_whenGiven_bind (fun value => (value.received_codeRange _).map _) fun _ => ?_
  refine received_whenGiven_bind (fun value => (value.received_codeRange _).map _) fun _ => ?_
  refine received_whenGiven_bind (fun value => ?codes) fun _ => ?_
  case codes =>
    rw [← bind_assoc]
    exact (Value.received_each (Value.received_codeRange _) value).map _
  refine received_whenGiven_bind (fun value => value.received_toItems.map _) fun _ => ?_
  refine received_whenGiven_bind (fun value => value.received_toItems.map _) fun _ => ?_
  exact received_whenGiven_last fun value => value.received_toItems.map _

theorem received_readWeights (weights : Weights Float) (written : Value) :
    Received (readWeights weights written) (written.sectionReception weightSettings) := by
  refine received_whenGiven_bind (fun value => value.received_toFloat.map _) fun _ => ?_
  refine received_whenGiven_bind (fun value => value.received_toFloat.map _) fun _ => ?_
  refine received_whenGiven_bind (fun value => value.received_toFloat.map _) fun _ => ?_
  refine received_whenGiven_bind (fun value => value.received_toFloat.map _) fun _ => ?_
  refine received_whenGiven_bind (fun value => value.received_toFloat.map _) fun _ => ?_
  refine received_whenGiven_bind (fun value => value.received_toFloat.map _) fun _ => ?_
  refine received_whenGiven_bind (fun value => value.received_toFloat.map _) fun _ => ?_
  exact received_whenGiven_last fun value => value.received_toFloat.map _

/-- The weights are asked of a table and of nothing else. -/
def Value.weightsReception (written : Value) : Reception :=
  match written with
  | .table _ => written.settingReception ("weights", sectionReception weightSettings)
  | _ => unreported

/-- How the quality section is received. -/
def Value.qualityReception (written : Value) : Reception :=
  first [written.sectionReception qualitySettings, written.weightsReception]

theorem received_readQuality (quality : QualitySettings Float) (written : Value) :
    Received (quality.readSection written) written.qualityReception := by
  rw [Value.qualityReception, Value.sectionReception, first_cons_first]
  simp only [qualitySettings, List.map_cons, List.map_nil, List.cons_append, List.nil_append]
  refine (received_whenGiven fun value => value.received_toFloat.map _).bind fun _ _ => ?_
  refine (received_whenGiven fun value => value.received_toItems.map _).bind fun extended _ => ?_
  rw [first_singleton]
  cases written with
  | table fields =>
      exact (received_fieldOr (received_readWeights extended.weights)
        (Value.sectionReception_empty _) fields _).map _
  | null | bool | int | float | undefined | text | list | moment => exact .unreported rfl

/-! ## Subsystems -/

/-- A tier is one of two words, and anything else is reported. -/
def Value.tierReception (name : Value) : Value → Reception
  | .text word =>
      if word = "primary" ∨ word = "secondary" then accepted else name.shownReception reported
  | other => other.shownReception (name.shownReception reported)

/-- Whether the fields of a subsystem give no glob, so that one is made from the name. -/
def lacksGlobs (fields : List (String × Value)) : Bool :=
  match fieldOr fields "globs" (.list []) with
  | .list items => items.isEmpty
  | .text content => content.toList.isEmpty
  | .table entries => entries.isEmpty
  | _ => false

/-- How the designation of a subsystem is received. -/
def Value.subsystemReception : Value → Reception
  | .table fields =>
      match OrderedMap.findIn "name" fields with
      | none => reported
      | some name => first
          [(table fields).settingReception ("tier", tierReception name),
            (table fields).sectionReception subsystemSettings,
            if lacksGlobs fields then name.shownReception accepted else accepted]
  | .text content => if Text.occurs "name" content then unreported else reported
  | .list items => if items.any (isText "name") then unreported else reported
  | .null | .bool _ | .int _ | .float _ | .undefined _ | .moment _ => unreported

theorem received_tierOfValue (tier name : Value) :
    Received (Tier.ofValue tier name) (name.tierReception tier) := by
  have refused : Received (do
      tier.checkShown
      name.checkShown
      throw (.configuration (.unknownTier tier name)) : Except Failure Tier)
        (tier.shownReception (name.shownReception reported)) :=
    tier.received_checkShown_bind (name.received_checkShown_bind (.reported _))
  cases tier with
  | text word =>
      have shown (reception : Reception) :
          (Value.text word).shownReception reception = reception := by
        simp [Value.shownReception, Value.hasText]
      rw [shown] at refused
      by_cases primary : word = "primary"
      · subst primary
        exact .accepted _
      · by_cases secondary : word = "secondary"
        · subst secondary
          exact .accepted _
        · have none : Tier.ofWord? word = none := by
            simp [Tier.ofWord?, Tier.word, Ne.symm primary, Ne.symm secondary]
          simp only [Tier.ofValue, Value.tierReception, none,
            if_neg (not_or.2 ⟨primary, secondary⟩)]
          exact refused
  | null | bool | int | float | undefined | list | table | moment => exact refused

/-- The globs that are read are none exactly when the fields give none. -/
theorem isEmpty_of_toItems {fields : List (String × Value)} {globs : List Value}
    (read : (fieldOr fields "globs" (.list [])).toItems = .ok globs) :
    globs.isEmpty = lacksGlobs fields := by
  unfold lacksGlobs
  cases written : fieldOr fields "globs" (.list []) with
  | list items =>
      rw [written] at read
      rw [← Except.ok.inj read]
  | text content =>
      rw [written] at read
      rw [← Except.ok.inj read]
      simp
  | table entries =>
      rw [written] at read
      rw [← Except.ok.inj read]
      simp
  | null | bool | int | float | undefined | moment =>
      rw [written] at read
      cases read

theorem received_subsystemOfFields (fields : List (String × Value)) :
    Received (Subsystem.ofFields fields) (Value.table fields).subsystemReception := by
  cases named : OrderedMap.findIn "name" fields with
  | none =>
      simp only [Subsystem.ofFields, Value.subsystemReception, named]
      exact .reported _
  | some name =>
      have items (key : String) : Received (fieldOr fields key (.list [])).toItems
          ((Value.table fields).settingReception (key, Value.itemsReception)) :=
        received_fieldOr Value.received_toItems rfl fields key
      simp only [Subsystem.ofFields, Value.subsystemReception, named]
      refine (received_fieldOr (fun tier => received_tierOfValue tier name) rfl fields _).bind
        fun tier _ => ?_
      rw [Value.sectionReception, first_cons_first]
      simp only [subsystemSettings, List.map_cons, List.map_nil, List.cons_append,
        List.nil_append]
      refine (items "keywords").bind fun keywords _ => ?_
      refine (items "globs").bind fun globs read => ?_
      refine (received_fieldOr Value.received_toFloat rfl fields _).bind fun health _ => ?_
      refine (received_fieldOr Value.received_toInt rfl fields _).bind fun critical _ => ?_
      refine (items "validation_steps").bind fun steps _ => ?_
      rw [first_singleton, ← isEmpty_of_toItems read]
      split
      · exact name.received_checkShown_bind (.accepted _)
      · exact .accepted _

theorem received_subsystemOfValue (value : Value) :
    Received (Subsystem.ofValue value) value.subsystemReception := by
  cases value with
  | table fields => exact received_subsystemOfFields fields
  | text content =>
      simp only [Subsystem.ofValue, Value.subsystemReception]
      split
      · exact .unreported rfl
      · exact .reported _
  | list items =>
      simp only [Subsystem.ofValue, Value.subsystemReception]
      split
      · exact .unreported rfl
      · exact .reported _
  | null | bool | int | float | undefined | moment => exact .unreported rfl

/-! ## The whole file -/

namespace Config

/-- The sections of a configuration file. -/
def sections : List SettingRule :=
  [("general", Value.sectionReception [("exclude", anyReception)]),
    ("analysis", Value.sectionReception analysisSettings),
    ("subsystems", Value.eachReception Value.subsystemReception),
    ("compiler", Value.sectionReception compilerSettings), ("quality", Value.qualityReception)]

/-- The limit that a file gives for the number of diagnostics. -/
def givenLimit (fields : List (String × Value)) : Option Int :=
  match (Value.table fields).field? "analysis" with
  | some analysis => (analysis.field? "max_diagnostics").bind fun value => value.toInt.toOption
  | none => none

/-- How the fields of a configuration file are received: section by section, and at last the
limit, which must not be negative. -/
def reception (fields : List (String × Value)) : Reception :=
  first [(Value.table fields).sectionReception sections,
    if (givenLimit fields).any (· < 0) then reported else accepted]

/-- Read the sections one after the other. -/
def readSections (fields : List (String × Value)) : Except Failure (Config Float) := do
  let document := Value.table fields
  let config := Config.standard
  let config ← whenGiven document "general" config fun general =>
    whenGiven general "exclude" config fun value => return { config with exclude := value }
  let config ← whenGiven document "analysis" config fun analysis => do
    return { config with analysis := ← config.analysis.readSection analysis }
  let config ← whenGiven document "subsystems" config fun value => do
    let subsystems ← (← value.toItems).mapM Subsystem.ofValue
    return { config with analysis := { config.analysis with subsystems := subsystems } }
  let config ← whenGiven document "compiler" config fun compiler => do
    return { config with compiler := ← config.compiler.readSection compiler }
  whenGiven document "quality" config fun quality => do
    return { config with quality := ← config.quality.readSection quality }

/-- A configuration is its sections, and its limit is checked behind them. -/
theorem ofFields_eq (fields : List (String × Value)) :
    ofFields fields = (do
      let config ← readSections fields
      if config.analysis.maxDiagnostics.any (· < 0) then throw (.configuration .negativeLimit)
      return config) := by
  simp only [ofFields, readSections, bind_assoc]

theorem received_readSections (fields : List (String × Value)) :
    Received (readSections fields) ((Value.table fields).sectionReception sections) := by
  refine received_whenGiven_bind
    (fun general => received_whenGiven_last fun _ => .accepted _) fun _ => ?_
  refine received_whenGiven_bind
    (fun analysis => (received_readAnalysis _ analysis).map _) fun _ => ?_
  refine received_whenGiven_bind (fun value => ?subsystems) fun _ => ?_
  case subsystems =>
    rw [← bind_assoc]
    exact (Value.received_each received_subsystemOfValue value).map _
  refine received_whenGiven_bind
    (fun compiler => (received_readCompiler _ compiler).map _) fun _ => ?_
  exact received_whenGiven_last fun quality => (received_readQuality _ quality).map _

/-- The limit in the analysis section. -/
theorem maxDiagnostics_of_readAnalysis {options read : Options Float} {written : Value}
    (found : options.readSection written = .ok read) :
    read.maxDiagnostics =
      (((written.field? "max_diagnostics").bind fun value => value.toInt.toOption).or
        options.maxDiagnostics) := by
  obtain ⟨limited, first, second⟩ := bind_eq_ok.1 found
  have kept : read.maxDiagnostics = limited.maxDiagnostics := by
    rcases whenGiven_eq_ok second with ⟨_, rfl⟩ | ⟨value, _, changed⟩
    · rfl
    · rw [← Except.ok.inj changed]
  rw [kept]
  rcases whenGiven_eq_ok first with ⟨absent, rfl⟩ | ⟨value, given, changed⟩
  · cases written with
    | table fields => rw [Value.field?, Except.ok.inj absent]; rfl
    | null | bool | int | float | undefined | text | list | moment => rfl
  · obtain ⟨limit, whole, changed⟩ := bind_eq_ok.1 changed
    have stands : written.field? "max_diagnostics" = some value := by
      cases written with
      | table fields => exact Except.ok.inj given
      | text content =>
          rw [Value.lookup] at given
          split at given <;> cases given
      | list items =>
          rw [Value.lookup] at given
          split at given <;> cases given
      | null | bool | int | float | undefined | moment => cases given
    rw [stands, Option.bind_some, whole, ← Except.ok.inj changed]
    rfl

/-- The limit of the configuration that is read is the one that the file gives. -/
theorem maxDiagnostics_of_readSections {fields : List (String × Value)} {config : Config Float}
    (read : readSections fields = .ok config) :
    config.analysis.maxDiagnostics = (givenLimit fields).or (some 100) := by
  obtain ⟨general, first, read⟩ := bind_eq_ok.1 read
  obtain ⟨analysed, second, read⟩ := bind_eq_ok.1 read
  obtain ⟨designated, third, read⟩ := bind_eq_ok.1 read
  obtain ⟨compiled, fourth, fifth⟩ := bind_eq_ok.1 read
  have standard : general.analysis.maxDiagnostics = some 100 := by
    rcases whenGiven_eq_ok first with ⟨_, rfl⟩ | ⟨value, _, changed⟩
    · rfl
    · rcases whenGiven_eq_ok changed with ⟨_, rfl⟩ | ⟨value, _, changed⟩
      · rfl
      · rw [← Except.ok.inj changed]
        rfl
  have limited : analysed.analysis.maxDiagnostics = (givenLimit fields).or (some 100) := by
    rcases whenGiven_eq_ok second with ⟨absent, rfl⟩ | ⟨value, given, changed⟩
    · rw [givenLimit, Value.field?, Except.ok.inj absent, standard]
      rfl
    · obtain ⟨options, inside, changed⟩ := bind_eq_ok.1 changed
      rw [givenLimit, Value.field?, Except.ok.inj given, ← Except.ok.inj changed, ← standard]
      exact maxDiagnostics_of_readAnalysis inside
  have kept : config.analysis.maxDiagnostics = compiled.analysis.maxDiagnostics := by
    rcases whenGiven_eq_ok fifth with ⟨_, rfl⟩ | ⟨value, _, changed⟩
    · rfl
    · obtain ⟨_, _, changed⟩ := bind_eq_ok.1 changed
      rw [← Except.ok.inj changed]
  have keptCompiled : compiled.analysis.maxDiagnostics = designated.analysis.maxDiagnostics := by
    rcases whenGiven_eq_ok fourth with ⟨_, rfl⟩ | ⟨value, _, changed⟩
    · rfl
    · obtain ⟨_, _, changed⟩ := bind_eq_ok.1 changed
      rw [← Except.ok.inj changed]
  have keptDesignated : designated.analysis.maxDiagnostics = analysed.analysis.maxDiagnostics := by
    rcases whenGiven_eq_ok third with ⟨_, rfl⟩ | ⟨value, _, changed⟩
    · rfl
    · obtain ⟨_, _, changed⟩ := bind_eq_ok.1 changed
      obtain ⟨_, _, changed⟩ := bind_eq_ok.1 changed
      rw [← Except.ok.inj changed]
  rw [kept, keptCompiled, keptDesignated, limited]

/-- **The fields of a configuration file are received as its rules say.** -/
theorem received_ofFields (fields : List (String × Value)) :
    Received (ofFields fields) (reception fields) := by
  rw [ofFields_eq]
  refine (received_readSections fields).bind fun config read => ?_
  rw [first_singleton, maxDiagnostics_of_readSections read]
  cases givenLimit fields with
  | none => exact .accepted _
  | some limit =>
      simp only [Option.some_or, Option.any_some]
      by_cases negative : limit < 0
      · simp only [negative, decide_true, if_true]
        exact .reported _
      · simp only [negative, decide_false]
        exact .accepted _

/-- The limit is reported if anything, so what is unreported is so because of a section. -/
theorem reception_eq_unreported_iff {fields : List (String × Value)} :
    reception fields = unreported ↔ ∃ before rule behind,
      sections = before ++ rule :: behind ∧
        (∀ other ∈ before, (Value.table fields).settingReception other = accepted) ∧
        (Value.table fields).settingReception rule = unreported := by
  have refuses : unreported ≠ accepted := nofun
  rw [← Value.sectionReception_eq_iff refuses, reception]
  cases (Value.table fields).sectionReception sections with
  | accepted => split <;> decide
  | reported | unreported => simp

/-- How the text of a configuration file is received.  A text that is no TOML document is
reported; of those that are, one with a number that is too long or with values that stand too
deep inside each other is not. -/
def receptionOfText (text : String) : Reception :=
  match Toml.read text.toList with
  | .ok fields => reception fields
  | .error misread =>
      if misread.fault = .numberTooLong ∨ misread.fault = .nestedTooDeep then unreported
      else reported

theorem received_ofText (text : String) : Received (ofText text) (receptionOfText text) := by
  unfold ofText receptionOfText
  cases Toml.read text.toList with
  | ok fields => exact received_ofFields fields
  | error misread =>
      obtain ⟨fault, left⟩ := misread
      cases fault with
      | numberTooLong | nestedTooDeep => exact .unreported rfl
      | _ => exact .reported _

/-- The configuration file of a project. -/
def file (project : Path) : Path := project.join (Path.parse configurationFileName)

/-- A project with a configuration file has the configuration that the file says. -/
theorem load_of_readBytes {disk : Disk} {project : Path} {text : String}
    (written : disk.readBytes (file project) = .ok text.toUTF8) :
    load disk project = ofText text := by
  obtain ⟨place, located, stands⟩ := bind_eq_ok.1 written
  have there : disk.nodeOf (file project) = some (.file text.toUTF8) := by
    rw [Disk.nodeOf, located]
    dsimp only
    split at stands
    · cases stands
    · cases stands
    · next found => rw [found, Except.ok.inj stands]
  have read : (do ofText (← Disk.decode (← disk.readBytes (file project)))) = ofText text := by
    rw [written]
    change (Disk.decode text.toUTF8 >>= ofText) = ofText text
    rw [Disk.decode_toUTF8]
    rfl
  unfold load
  simp only
  split
  · next absent => cases absent.symm.trans there
  · exact read

/-- **A configuration file is received as its rules say.** -/
theorem received_load {disk : Disk} {project : Path} {text : String}
    (written : disk.readBytes (file project) = .ok text.toUTF8) :
    Received (load disk project) (receptionOfText text) := by
  rw [load_of_readBytes written]
  exact received_ofText text

end Config

end Triage
