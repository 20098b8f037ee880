import Triage.Proofs.CommandLine.Commands
import Triage.Proofs.CommandLine.Exports

/-!
# What a command presents

Every command opens its project, says that it begins if it does, prepares what it shows, and
presents that (`Command.run_eq`).  What it shows is settled before the first export is written, and
so is whether the score passes.  The exports are those that the command is asked for
(`suits_of_prepare`).
-/

namespace Triage

set_option autoImplicit false

namespace CommandLine

variable {attention : Attention}

/-! ## Preparing and presenting -/

/-- What a command says when it begins to work on a project. -/
def Command.opening (command : Command) (project : Project) : List Display.Item :=
  match command with
  | .analyze => [progressLine project.tree.root]
  | .patterns | .fixes | .quality | .components => []

/-- What a command shows of a project. -/
def Command.prepare (command : Command) (parameters : Parameters) (disk : Disk)
    (observedAt : String) (project : Project) : Run Presentation :=
  match command with
  | .analyze => do
      let analysis ← project.analyze disk none observedAt false
      Display.checkCard analysis.quality.metrics
      return .ofAnalysis parameters project.tree.root analysis
  | .patterns => do
      let report ← project.patternsAlone disk observedAt
      return .ofPatterns parameters report
  | .fixes => do
      let report ← project.fixesAlone disk observedAt
      Display.checkPanel report parameters.limit
      return .ofFixes parameters report
  | .quality => do
      let answer ← project.qualityAlone disk observedAt
      Display.checkCard answer.2.metrics
      return .ofQuality parameters answer.1 answer.2
  | .components =>
      if project.subsystems.isEmpty then return { before := [noSubsystems] }
      else do
        let scan ← project.componentsAlone disk
        return .ofScan parameters observedAt scan

/-- The disk that a command finds when it presents: all but one have run the compiler. -/
def Command.diskMet (command : Command) (project : Project) (disk : Disk) : Disk :=
  match command with
  | .analyze | .patterns | .fixes | .quality => project.diskAfter disk
  | .components => disk

/-- **A command opens its project, says that it begins, prepares what it shows, and presents
it.** -/
theorem Command.run_eq (command : Command) (host : Host) (parameters : Parameters) (disk : Disk)
    (directory : Place) (observedAt : String) :
    command.run host parameters disk directory observedAt = (do
      let project ← (openProject host disk directory parameters : Except Failure Project)
      (host.show (command.opening project) : Except Failure Unit)
      let shown ← command.prepare parameters disk observedAt project
      host.present shown directory (command.diskMet project disk)) := by
  cases command with
  | analyze =>
      simp only [Command.run, runAnalyze, prepare, bind_assoc, pure_bind]
      rfl
  | patterns =>
      rw [Command.run, runPatterns_eq]
      simp only [opening, Host.show_nil, Run.lift_ok_bind, prepare, bind_assoc, pure_bind]
      rfl
  | fixes =>
      rw [Command.run, runFixes_eq]
      simp only [opening, Host.show_nil, Run.lift_ok_bind, prepare, bind_assoc, pure_bind]
      rfl
  | quality =>
      rw [Command.run, runQuality_eq]
      simp only [opening, Host.show_nil, Run.lift_ok_bind, prepare, bind_assoc, pure_bind]
      rfl
  | components =>
      rw [Command.run, runComponents]
      refine congrArg (_ >>= ·) (funext fun project => ?_)
      simp only [opening, Host.show_nil, Run.lift_ok_bind, prepare, Run.ite_bind, bind_assoc,
        pure_bind]
      rfl

/-! ## What a presentation has -/

/-- The exports of a presentation are those that the command is asked for, except that none may be
made where every score passes.  A score fails by a threshold only. -/
structure Presentation.Suits (shown : Presentation) (command : Command) (parameters : Parameters) :
    Prop where
  paths : shown.exports ≠ [] ∨ shown.passed = false →
    shown.exports.map Export.path = command.exportPaths parameters.exportTo
  threshold : shown.passed = false → (parameters.failUnder == 0) = false

theorem map_path_wanted {command : Command} {target : Option Path} {exports : Path → List Export}
    (each : ∀ path, (exports path).map Export.path = command.exportPaths (some path)) :
    (wanted target exports).map Export.path = command.exportPaths target := by
  cases target with
  | none => rfl
  | some path => exact each path

theorem threshold_of_passes {failUnder score : Float} (failed : passes failUnder score = false) :
    (failUnder == 0) = false := (Bool.or_eq_false_iff.1 failed).1

theorem suits_of_prepare {command : Command} {parameters : Parameters} {disk : Disk}
    {observedAt : String} {project : Project} {shown : Presentation}
    (prepared : (command.prepare parameters disk observedAt project).result attention =
      .ok shown) : shown.Suits command parameters := by
  cases command with
  | analyze =>
      obtain ⟨analysis, _, _, further⟩ := Run.ok_of_result_bind prepared
      obtain ⟨_, _, _, further⟩ := Run.ok_of_bind further
      obtain rfl := Run.ok_of_pure further
      exact ⟨fun _ => map_path_wanted fun _ => rfl, threshold_of_passes⟩
  | patterns =>
      obtain ⟨report, _, _, further⟩ := Run.ok_of_result_bind prepared
      obtain rfl := Run.ok_of_pure further
      exact ⟨fun _ => map_path_wanted fun _ => rfl, nofun⟩
  | fixes =>
      obtain ⟨report, _, _, further⟩ := Run.ok_of_result_bind prepared
      obtain ⟨_, _, _, further⟩ := Run.ok_of_bind further
      obtain rfl := Run.ok_of_pure further
      exact ⟨fun _ => map_path_wanted fun _ => rfl, nofun⟩
  | quality =>
      obtain ⟨answer, _, _, further⟩ := Run.ok_of_result_bind prepared
      obtain ⟨_, _, _, further⟩ := Run.ok_of_bind further
      obtain rfl := Run.ok_of_pure further
      exact ⟨fun _ => map_path_wanted fun _ => rfl, threshold_of_passes⟩
  | components =>
      simp only [Command.prepare] at prepared
      split at prepared
      · obtain rfl := Except.ok.inj prepared
        exact ⟨fun shows => shows.elim (absurd rfl) nofun, nofun⟩
      · obtain ⟨scan, _, _, further⟩ := Run.ok_of_result_bind prepared
        obtain rfl := Run.ok_of_pure further
        exact ⟨fun _ => map_path_wanted fun _ => rfl, nofun⟩

end CommandLine

end Triage
