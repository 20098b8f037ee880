import Triage.CommandLine.Response
import Triage.Proofs.Project.Completion
import Triage.Proofs.Report.Export

/-!
# What the commands do

Every command computes something of the project that it opens, and then presents it: it prints
it, and exports it if that is wanted.  What single commands compute is named here, and the result of
a command is the result of that, presented (`result_runAnalyze` and its kind).  A presentation
shows, exports and shows again, and does not look at what was noted before (`result_present`).

The whole analysis also says that it has begun, and so it ends at once where the terminal cannot
show that.  Whether a command that completes has passed depends on its presentation alone
(`passed_of_present`).
-/

namespace Triage

set_option autoImplicit false

variable {attention : Attention}

/-! ## What a command computes of a project -/

namespace Project

variable (project : Project) (disk : Disk) (observedAt : String)

/-- What the patterns command reports. -/
def patternsAlone : Run PatternReport := do
  let collection ← project.collect disk
  reportPatterns project.subsystems observedAt collection.diagnostics

/-- What the fixes command reports. -/
def fixesAlone : Run FixReport := do
  let collection ← project.collect disk
  reportFixes project.config.compiler project.subsystems observedAt collection.diagnostics

/-- What the quality command reports, with the collection that it shows beside it. -/
def qualityAlone : Run (CollectionReport × QualityReport Float) := do
  let collection ← project.collect disk
  checkPatterns project.subsystems collection.diagnostics
  let report ← reportQuality (project.diskAfter disk) (project.qualityScope none) observedAt
    collection.diagnostics (findPatterns project.subsystems collection.diagnostics) false
  return (collection, report)

/-- What the components command reports: it runs no compiler. -/
def componentsAlone : Run ComponentScan :=
  reportComponents disk project.tree project.config.compiler project.subsystems

end Project

namespace CommandLine

/-! ## Showing -/

section Showing

variable (host : Host)

theorem Host.show_nil : host.show [] = .ok () := rfl

/-- All items are shown when each of them is. -/
theorem Host.show_eq_ok_iff {items : List Display.Item} :
    host.show items = .ok () ↔ ∀ item ∈ items, host.shows item = true := by
  rw [← List.all_eq_true, Host.show]
  split
  · next shown => exact iff_of_true rfl shown
  · next unshown => exact iff_of_false nofun unshown

/-- Items are shown one after the other. -/
theorem Host.show_append (items more : List Display.Item) :
    host.show (items ++ more) = host.show items >>= fun _ => host.show more := by
  unfold Host.show
  rw [List.all_append]
  cases items.all host.shows <;> rfl

end Showing

/-! ## Presenting -/

section Presenting

variable {host : Host} {shown : Presentation} {directory : Place} {disk : Disk}

/-- A presentation shows, exports and shows again. -/
theorem result_present :
    (host.present shown directory disk).result attention = (do
      host.show shown.before
      let written ← (writeExports directory shown.exports disk).result attention
      host.show (savedLines shown.exports ++ shown.behind)
      return shown.completion written) := by
  rw [Host.present, Run.result_lift_bind]
  refine congrArg (_ >>= ·) (funext fun _ => Run.result_bind fun written => ?_)
  exact Run.returns_bind (Run.returns_lift _) fun _ => Run.returns_pure _

theorem settles_present : (host.present shown directory disk).Settles attention :=
  (Run.settles_lift _).bind fun _ => (settles_writeExports directory shown.exports disk).bind
    fun _ => (Run.settles_lift _).bind fun _ => Run.settles_pure _

/-- What completes has passed or not as the presentation says. -/
theorem passed_of_present {completion : Completion}
    (completed : (host.present shown directory disk).result attention = .ok completion) :
    completion.passed = shown.passed := by
  rw [result_present] at completed
  obtain ⟨_, _, further⟩ := bind_eq_ok.1 completed
  obtain ⟨written, _, further⟩ := bind_eq_ok.1 further
  obtain ⟨_, _, further⟩ := bind_eq_ok.1 further
  rw [← Except.ok.inj further]
  rfl

/-- Without exports only the terminal decides whether a presentation completes. -/
theorem passed_present_of_exports (none : shown.exports = []) :
    ((host.present shown directory disk).result attention).map Completion.passed = (do
      host.show shown.before
      host.show shown.behind
      return shown.passed) := by
  rw [result_present, none]
  cases host.show shown.before with
  | error failure => rfl
  | ok _ =>
      change Except.map Completion.passed (host.show shown.behind >>= _) = _
      cases host.show shown.behind <;> rfl

end Presenting

/-! ## Commands compute and present -/

section Halves

variable (host : Host) (parameters : Parameters) (disk : Disk) (directory : Place)
  (observedAt : String)

theorem runPatterns_eq :
    runPatterns host parameters disk directory observedAt = (do
      let project ← (openProject host disk directory parameters : Except Failure Project)
      let report ← project.patternsAlone disk observedAt
      host.present (.ofPatterns parameters report) directory (project.diskAfter disk)) := by
  simp only [runPatterns, Project.patternsAlone, bind_assoc]

theorem runFixes_eq :
    runFixes host parameters disk directory observedAt = (do
      let project ← (openProject host disk directory parameters : Except Failure Project)
      let report ← project.fixesAlone disk observedAt
      (Display.checkPanel report parameters.limit : Except Failure Unit)
      host.present (.ofFixes parameters report) directory (project.diskAfter disk)) := by
  simp only [runFixes, Project.fixesAlone, bind_assoc]

theorem runQuality_eq :
    runQuality host parameters disk directory observedAt = (do
      let project ← (openProject host disk directory parameters : Except Failure Project)
      let answer ← project.qualityAlone disk observedAt
      (Display.checkCard answer.2.metrics : Except Failure Unit)
      host.present (.ofQuality parameters answer.1 answer.2) directory
        (project.diskAfter disk)) := by
  simp only [runQuality, Project.qualityAlone, bind_assoc, pure_bind]

end Halves

section Opened

variable {host : Host} {parameters : Parameters} {disk : Disk} {directory : Place}
  {project : Project} (opened : openProject host disk directory parameters = .ok project)
include opened

theorem result_runAnalyze (observedAt : String) :
    (runAnalyze host parameters disk directory observedAt).result attention = (do
      host.show [progressLine project.tree.root]
      let analysis ← (project.analyze disk none observedAt false).result attention
      Display.checkCard analysis.quality.metrics
      (host.present (.ofAnalysis parameters project.tree.root analysis) directory
        (project.diskAfter disk)).result attention) := by
  rw [runAnalyze, opened, Run.lift_ok_bind, Run.result_lift_bind]
  refine congrArg (_ >>= ·) (funext fun _ => Run.result_bind fun analysis => ?_)
  exact Run.returns_bind (Run.returns_lift _) fun _ => settles_present

theorem result_runPatterns (observedAt : String) :
    (runPatterns host parameters disk directory observedAt).result attention = (do
      let report ← (project.patternsAlone disk observedAt).result attention
      (host.present (.ofPatterns parameters report) directory (project.diskAfter disk)).result
        attention) := by
  rw [runPatterns_eq, opened, Run.lift_ok_bind]
  exact Run.result_bind fun _ => settles_present

theorem result_runFixes (observedAt : String) :
    (runFixes host parameters disk directory observedAt).result attention = (do
      let report ← (project.fixesAlone disk observedAt).result attention
      Display.checkPanel report parameters.limit
      (host.present (.ofFixes parameters report) directory (project.diskAfter disk)).result
        attention) := by
  rw [runFixes_eq, opened, Run.lift_ok_bind]
  exact Run.result_bind fun _ => Run.returns_bind (Run.returns_lift _) fun _ => settles_present

theorem result_runQuality (observedAt : String) :
    (runQuality host parameters disk directory observedAt).result attention = (do
      let answer ← (project.qualityAlone disk observedAt).result attention
      Display.checkCard answer.2.metrics
      (host.present (.ofQuality parameters answer.1 answer.2) directory
        (project.diskAfter disk)).result attention) := by
  rw [runQuality_eq, opened, Run.lift_ok_bind]
  exact Run.result_bind fun _ => Run.returns_bind (Run.returns_lift _) fun _ => settles_present

theorem result_runComponents (observedAt : String) (some : project.subsystems ≠ []) :
    (runComponents host parameters disk directory observedAt).result attention = (do
      let scan ← (project.componentsAlone disk).result attention
      (host.present (.ofScan parameters observedAt scan) directory disk).result attention) := by
  have listed : ¬ project.subsystems.isEmpty = true := mt List.isEmpty_iff.1 some
  rw [runComponents, opened, Run.lift_ok_bind, if_neg listed]
  exact Run.result_bind fun _ => settles_present

/-! ## The project of a command -/

/-- A command reads its records from a file or from the compiler. -/
theorem isRead_of_openProject : project.source.IsRead := by
  obtain ⟨config, _, further⟩ := bind_eq_ok.1 opened
  obtain ⟨extra, _, further⟩ := bind_eq_ok.1 further
  rw [← Except.ok.inj further]
  change (sourceOf host directory parameters).IsRead
  unfold sourceOf
  cases parameters.diagnosticsFile <;> trivial

/-- Records from a file leave the disk as it was. -/
theorem diskAfter_of_diagnosticsFile (given : parameters.diagnosticsFile ≠ none) :
    project.diskAfter disk = disk := by
  obtain ⟨config, _, further⟩ := bind_eq_ok.1 opened
  obtain ⟨extra, _, further⟩ := bind_eq_ok.1 further
  obtain ⟨path, written⟩ := Option.ne_none_iff_exists'.1 given
  rw [← Except.ok.inj further]
  change (sourceOf host directory parameters).diskAfter disk _ _ = disk
  rw [sourceOf, written]
  rfl

end Opened

/-- The parameters that the components command knows, with its own export. -/
def Parameters.forScan (parameters : Parameters) (exportTo : Option Path) : Parameters :=
  { root := parameters.root, subsystems := parameters.subsystems, verbose := parameters.verbose
    exportTo }

/-- The components command scans the same source files for the same subsystems. -/
theorem exists_openProject_forScan {host : Host} {parameters : Parameters} {disk : Disk}
    {directory : Place} {project : Project}
    (opened : openProject host disk directory parameters = .ok project) (exportTo : Option Path) :
    ∃ other, openProject host disk directory (parameters.forScan exportTo) = .ok other ∧
      other.componentsAlone disk = project.componentsAlone disk ∧
      other.subsystems = project.subsystems := by
  obtain ⟨config, loaded, further⟩ := bind_eq_ok.1 opened
  obtain ⟨extra, added, further⟩ := bind_eq_ok.1 further
  obtain rfl := Except.ok.inj further
  exact ⟨_, bind_eq_ok.2 ⟨config, loaded, bind_eq_ok.2 ⟨extra, added, rfl⟩⟩, rfl, rfl⟩

/-! ## Exit codes -/

/-- The exit code of a command from whether its score has passed, or from how it has failed. -/
def exitCodeOf : Except Failure Bool → Except Failure Nat
  | .ok passed => .ok (if passed then 0 else belowThreshold)
  | .error failure =>
      match failure.message? with
      | some _ => .ok couldNotRun
      | none => .error failure

/-- A failure without a text is left to the caller. -/
theorem ofRun_of_silent (disk : Disk) {answer : Except Failure Completion × List Note}
    {failure : Failure} (failed : answer.1 = .error failure) (silent : failure.message? = none) :
    Response.ofRun disk answer = .error failure := by
  obtain ⟨_, notes⟩ := answer
  obtain rfl := failed
  simp only [Response.ofRun, silent]

theorem exitCode_ofRun (disk : Disk) (answer : Except Failure Completion × List Note) :
    (Response.ofRun disk answer).map Response.exitCode =
      exitCodeOf (answer.1.map Completion.passed) := by
  obtain ⟨completed, notes⟩ := answer
  cases completed with
  | ok completion => rfl
  | error failure =>
      simp only [Response.ofRun, exitCodeOf, Except.map]
      cases failure.message? <;> rfl

end CommandLine

end Triage
