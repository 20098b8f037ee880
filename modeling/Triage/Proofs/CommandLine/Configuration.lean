import Triage.CommandLine.Replay
import Triage.Proofs.CommandLine.Presentation
import Triage.Proofs.Config.Loading

/-!
# How commands answer a configuration

Every command loads the configuration first, so a failure of loading is the failure of the command
(`Command.perform_of_openProject`).  A fault of the configuration is answered with an exit code and
a line that says it; a failure that nobody reports goes to the caller.  Which of the two it is
depends on the text of the configuration file alone, by the rules of its settings
(`configuration_is_answered_by_its_rules`).  Not every bad value is reported
(`careless_configuration_is_not_reported`).
-/

namespace Triage.CommandLine

set_option autoImplicit false

variable {host : Host} {disk : Disk} {directory : Place} {parameters : Parameters}
  {command : Command} {failure : Failure}

/-- A command that cannot open its project does nothing else. -/
theorem Command.perform_of_openProject
    (failed : openProject host disk directory parameters = .error failure) (observedAt : String)
    (attention : Attention) :
    (command.run host parameters disk directory observedAt).perform attention =
      (.error failure, []) := by
  rw [Command.run_eq, failed]
  rfl

/-- A project is not opened when its configuration cannot be loaded. -/
theorem openProject_of_loadConfig (failed : loadConfig disk directory parameters = .error failure) :
    openProject host disk directory parameters = .error failure := by
  rw [openProject, failed]
  rfl

/-- The answer to arguments whose configuration cannot be loaded. -/
theorem to_of_loadConfig {arguments : List String}
    (asked : Request.ofArguments disk directory arguments = .ok (.run command parameters))
    (failed : loadConfig disk directory parameters = .error failure) (observedAt : String) :
    Response.to host disk directory observedAt arguments =
      Response.ofRun disk (.error failure, []) := by
  rw [Response.to, asked]
  simp only
  rw [Command.perform_of_openProject (openProject_of_loadConfig failed)]

/-- The configuration file of the project that a command works on. -/
def configurationFile (directory : Place) (parameters : Parameters) : Path :=
  Config.file ((Path.ofPlace directory).join parameters.root)

/-- The answer to arguments tells how the text of the configuration file was received. -/
structure AnswersConfiguration (host : Host) (disk : Disk) (directory : Place)
    (observedAt : String) (arguments : List String) (parameters : Parameters) (text : String) :
    Prop where
  loaded : Config.receptionOfText text = .accepted ↔
    ∃ config, loadConfig disk directory parameters = .ok config
  faulty : Config.receptionOfText text = .reported ↔
    ∃ fault, loadConfig disk directory parameters = .error (.configuration fault)
  failing : Config.receptionOfText text = .unreported ↔ ∃ failure, failure.message? = none ∧
    loadConfig disk directory parameters = .error failure
  /-- A document fails like that when one of its sections does and none before it is refused. -/
  decided : ∀ fields, Toml.read text.toList = .ok fields →
    (Config.receptionOfText text = .unreported ↔ ∃ before rule behind,
      Config.sections = before ++ rule :: behind ∧
        (∀ other ∈ before, (Value.table fields).settingReception other = .accepted) ∧
        (Value.table fields).settingReception rule = .unreported)
  /-- A fault is answered with the exit code for what could not run, and its text. -/
  answered : ∀ fault, loadConfig disk directory parameters = .error (.configuration fault) →
    Response.to host disk directory observedAt arguments =
      .ok { exitCode := couldNotRun, errors := [errorLine fault.message], disk }
  /-- Any other failure is not answered. -/
  unanswered : ∀ failure, failure.message? = none →
    loadConfig disk directory parameters = .error failure →
      Response.to host disk directory observedAt arguments = .error failure

/-- **A configuration is answered by its rules.** For every text of a configuration file and every
command, the configuration is loaded, or a fault of it is reported with exit code two, unless the
first setting that is not accepted is one that is not checked; then loading fails, and the failure
is left to the caller. -/
theorem configuration_is_answered_by_its_rules (host : Host) (disk : Disk) (directory : Place)
    (observedAt : String) (arguments : List String) (command : Command) (parameters : Parameters)
    (text : String)
    (asked : Request.ofArguments disk directory arguments = .ok (.run command parameters))
    (written : disk.readBytes (configurationFile directory parameters) = .ok text.toUTF8) :
    AnswersConfiguration host disk directory observedAt arguments parameters text := by
  have received : Received (loadConfig disk directory parameters) (Config.receptionOfText text) :=
    Config.received_load written
  constructor
  case loaded => exact received.accepted_iff
  case faulty => exact received.reported_iff
  case failing => exact received.unreported_iff
  case decided =>
    intro fields read
    rw [Config.receptionOfText, read]
    exact Config.reception_eq_unreported_iff
  case answered =>
    intro fault failed
    rw [to_of_loadConfig asked failed]
    rfl
  case unanswered =>
    intro failure silent failed
    rw [to_of_loadConfig asked failed, Response.ofRun]
    simp only [silent]

/-- A project with a text for its configuration file. -/
def configuredDisk (text : String) : Disk :=
  Disk.empty.put [configurationFileName] (.file text.toUTF8)

theorem ofArguments_configuredDisk (text : String) :
    Request.ofArguments (configuredDisk text) [] ["patterns"] = .ok (.run .patterns {}) := rfl

theorem readBytes_configuredDisk (text : String) :
    (configuredDisk text).readBytes (configurationFile [] {}) = .ok text.toUTF8 := rfl

/-- A tier that is none is reported. -/
theorem configuration_of_unknown_tier_is_answered :
    Request.ofArguments (configuredDisk "[[subsystems]]\nname = \"a\"\ntier = 3\n") []
        ["patterns"] = .ok (.run .patterns {}) ∧
      (configuredDisk "[[subsystems]]\nname = \"a\"\ntier = 3\n").readBytes
        (configurationFile [] {}) = .ok "[[subsystems]]\nname = \"a\"\ntier = 3\n".toUTF8 ∧
      ∃ response, Response.to .plain (configuredDisk "[[subsystems]]\nname = \"a\"\ntier = 3\n")
        [] "" ["patterns"] = .ok response ∧ response.exitCode = 2 := by
  have answers := configuration_is_answered_by_its_rules .plain _ [] "" ["patterns"] .patterns {} _
    (ofArguments_configuredDisk "[[subsystems]]\nname = \"a\"\ntier = 3\n")
    (readBytes_configuredDisk _)
  obtain ⟨fault, failed⟩ := answers.faulty.1 (by decide +kernel)
  exact ⟨ofArguments_configuredDisk _, readBytes_configuredDisk _, _,
    answers.answered fault failed, rfl⟩

/-- A TOML document with a limit that is no number. -/
def carelessText : String := "[analysis]\nmax_diagnostics = \"many\"\n"

/-- A bad configuration need not be reported, on any host. -/
theorem careless_configuration_is_not_reported :
    (Toml.read carelessText.toList).toBool = true ∧ ∃ failure, failure.message? = none ∧
      loadConfig (configuredDisk carelessText) [] {} = .error failure ∧
      ∀ host, Response.to host (configuredDisk carelessText) [] "" ["patterns"] =
        .error failure := by
  have rules : (Toml.read carelessText.toList).toBool = true ∧
      Config.receptionOfText carelessText = .unreported := by decide +kernel
  obtain ⟨valid, unreported⟩ := rules
  have received : Received (loadConfig (configuredDisk carelessText) [] {})
      (Config.receptionOfText carelessText) :=
    Config.received_load (readBytes_configuredDisk carelessText)
  obtain ⟨failure, silent, failed⟩ := received.unreported_iff.1 unreported
  refine ⟨valid, failure, silent, failed, fun host => ?_⟩
  rw [to_of_loadConfig (ofArguments_configuredDisk carelessText) failed, Response.ofRun]
  simp only [silent]

end Triage.CommandLine
