import Triage.Proofs.CommandLine.Agreement
import Triage.Proofs.CommandLine.Presentation

/-!
# What a command leaves on the disk

Nothing that can fail with a text comes behind an export, and whether the score passes is settled
before the first one.  With what exporting leaves on the disk, told in `exportsEffect`, this gives
what a whole command leaves, also when it fails on the way (`Command.effect`), be it that the
terminal cannot show something.  A command completes or fails as its effect does
(`Command.result_run`), and where no compiler changes the disk its effect is that of exporting or
nothing (`Command.effect_cases`).

So an invocation leaves alone what it is not asked to export (`invocations_spare_the_project`).
-/

namespace Triage

set_option autoImplicit false

namespace CommandLine

section Running

variable {attention : Attention}

/-! ## The effect of presenting -/

theorem Host.failsSilently_show (host : Host) (items : List Display.Item) :
    FailsSilently (host.show items) := by
  unfold Host.show
  split
  · exact failsSilently_ok _
  · exact failsSilently_error rfl

namespace Presentation

/-- The effect of writing the exports of a presentation and saying so. -/
def savingEffect (shown : Presentation) (host : Host) (directory : Place) (disk : Disk) :
    Effect Completion :=
  (exportsEffect directory shown.exports disk).andThen fun _ written =>
    .idle written do
      host.show (savedLines shown.exports ++ shown.behind)
      return shown.completion written

/-- The effect of presenting. -/
def effect (shown : Presentation) (host : Host) (directory : Place) (disk : Disk) :
    Effect Completion :=
  (Effect.idle disk (host.show shown.before)).andThen fun _ disk =>
    shown.savingEffect host directory disk

variable {shown : Presentation} {host : Host} {directory : Place} {disk : Disk}

/-- Presenting completes or fails as its effect does. -/
theorem result_present_eq_answer :
    (host.present shown directory disk).result attention =
      (shown.effect host directory disk).answer := by
  rw [result_present, result_writeExports, effect, Effect.answer_andThen]
  refine congrArg (_ >>= ·) (funext fun _ => ?_)
  change _ = (shown.savingEffect host directory disk).answer
  rw [savingEffect, Effect.answer_andThen, Effect.handed]
  cases (exportsEffect directory shown.exports disk).answer <;> rfl

/-- Nothing is left by saving but what exporting leaves. -/
theorem left_savingEffect : (shown.savingEffect host directory disk).left =
    (exportsEffect directory shown.exports disk).left := by
  unfold savingEffect Effect.andThen
  split <;> rfl

/-- What completes does so with the disk that exporting leaves, when that has ended well. -/
theorem completed_of_savingEffect {completion : Completion}
    (completed : (shown.savingEffect host directory disk).answer = .ok completion) :
    (exportsEffect directory shown.exports disk).answer = .ok () ∧
      shown.completion (exportsEffect directory shown.exports disk).left = completion := by
  rw [savingEffect, Effect.answer_andThen] at completed
  obtain ⟨_, ended, told⟩ := bind_eq_ok.1 completed
  obtain ⟨_, _, same⟩ := bind_eq_ok.1 told
  exact ⟨ended, Except.ok.inj same⟩

theorem failsSilently_savingEffect :
    FailsSilently (shown.savingEffect host directory disk).answer :=
  Effect.failsSilently_andThen (failsSilently_exportsEffect directory shown.exports disk)
    fun _ _ => (host.failsSilently_show _).bind fun _ => failsSilently_ok _

end Presentation

/-! ## The effect of a command -/

/-- Open the project, say that the work begins, prepare, and present, with what is left on the disk
at every end. -/
def Command.effect (command : Command) (host : Host) (parameters : Parameters) (disk : Disk)
    (directory : Place) (observedAt : String) (attention : Attention) : Effect Completion :=
  (Effect.idle disk (openProject host disk directory parameters)).andThen fun project _ =>
    (Effect.idle disk (host.show (command.opening project))).andThen fun _ _ =>
      (Effect.idle (command.diskMet project disk)
        ((command.prepare parameters disk observedAt project).result attention)).andThen
          fun shown met => shown.effect host directory met

/-- **A command completes or fails as its effect does.** -/
theorem Command.result_run (command : Command) (host : Host) (parameters : Parameters) (disk : Disk)
    (directory : Place) (observedAt : String) :
    (command.run host parameters disk directory observedAt).result attention =
      (command.effect host parameters disk directory observedAt attention).answer := by
  rw [Command.run_eq, Command.effect, Effect.answer_andThen, Run.result_lift_bind]
  refine congrArg (_ >>= ·) (funext fun project => ?_)
  rw [Effect.answer_andThen, Run.result_lift_bind]
  refine congrArg (_ >>= ·) (funext fun _ => ?_)
  rw [Effect.answer_andThen, Run.result_bind fun shown => settles_present]
  exact congrArg (_ >>= ·) (funext fun shown => Presentation.result_present_eq_answer)

/-- **Where no compiler changes the disk** a command fails with nothing done, or it has shown what
it has prepared, and saves it. -/
theorem Command.effect_cases {command : Command} {host : Host} {parameters : Parameters}
    {disk : Disk} {directory : Place}
    (quiet : ∀ project, openProject host disk directory parameters = .ok project →
      command.diskMet project disk = disk) (observedAt : String) (attention : Attention) :
    (∃ failure, command.effect host parameters disk directory observedAt attention =
      .idle disk (.error failure)) ∨
    ∃ project shown, openProject host disk directory parameters = .ok project ∧
      (command.prepare parameters disk observedAt project).result attention = .ok shown ∧
      command.effect host parameters disk directory observedAt attention =
        shown.savingEffect host directory disk := by
  unfold effect
  cases opened : openProject host disk directory parameters with
  | error failure => exact .inl ⟨failure, rfl⟩
  | ok project =>
      rw [Effect.idle_ok_andThen, quiet project opened]
      cases host.show (command.opening project) with
      | error failure => exact .inl ⟨failure, rfl⟩
      | ok _ =>
          cases prepared :
            (command.prepare parameters disk observedAt project).result attention with
          | error failure => exact .inl ⟨failure, rfl⟩
          | ok shown =>
              rw [Effect.idle_ok_andThen, Effect.idle_ok_andThen, Presentation.effect]
              cases host.show shown.before with
              | error failure => exact .inl ⟨failure, rfl⟩
              | ok _ => exact .inr ⟨project, shown, rfl, prepared, rfl⟩

end Running

/-! ## Invocations -/

/-- How much of the journal is read. -/
def Parameters.attention (parameters : Parameters) : Attention :=
  if parameters.verbose then .everything else .warnings

section Invocations

variable (host : Host) (disk : Disk) (directory : Place) (observedAt : String)
  (arguments : List String)

/-- What is on the disk when an invocation has ended, however it has ended. -/
def diskLeft : Disk :=
  match Request.ofArguments disk directory arguments with
  | .ok (.run command parameters) =>
      (command.effect host parameters disk directory observedAt parameters.attention).left
  | _ => disk

/-- The places of the files that an invocation is asked to export. -/
def exportPlaces : List Place :=
  match Request.ofArguments disk directory arguments with
  | .ok (.run command parameters) =>
      (command.exportPaths parameters.exportTo).map (exportPlace directory)
  | _ => []

/-- The diagnostics come from a file or are not collected, or the compiler that is run changes
nothing. -/
def CompilerSparesDisk : Prop :=
  ∀ command parameters project,
    Request.ofArguments disk directory arguments = .ok (.run command parameters) →
    command ≠ .components → parameters.diagnosticsFile = none →
    openProject host disk directory parameters = .ok project → project.diskAfter disk = disk

/-- An invocation comes as far as presenting something. -/
structure Presents (command : Command) (parameters : Parameters) (shown : Presentation) :
    Prop where
  asked : Request.ofArguments disk directory arguments = .ok (.run command parameters)
  prepared : ∃ project, openProject host disk directory parameters = .ok project ∧
    (command.prepare parameters disk observedAt project).result parameters.attention = .ok shown

/-- What an invocation does to the disk. -/
structure SparesProject : Prop where
  /-- An answer comes with the disk that is left. -/
  answered : ∀ response, Response.to host disk directory observedAt arguments = .ok response →
    response.disk = diskLeft host disk directory observedAt arguments
  /-- A file that is no export has the same bytes afterwards. -/
  kept : ∀ place bytes, place ∉ exportPlaces disk directory arguments →
    disk.nodeAt place = some (.file bytes) →
    (diskLeft host disk directory observedAt arguments).nodeAt place = some (.file bytes)
  /-- Nothing else is new but directories. -/
  spared : disk.Spares (diskLeft host disk directory observedAt arguments)
    (exportPlaces disk directory arguments)
  /-- Without an export nothing is done. -/
  unasked : exportPlaces disk directory arguments = [] →
    diskLeft host disk directory observedAt arguments = disk
  /-- Without the name of the switch there is no export. -/
  unnamed : (∀ argument ∈ arguments, ¬ NamesExport argument) →
    exportPlaces disk directory arguments = []
  /-- Nothing is done where the command could not run. -/
  refused : ∀ response, Response.to host disk directory observedAt arguments = .ok response →
    response.exitCode = couldNotRun → diskLeft host disk directory observedAt arguments = disk
  /-- A score below a threshold is told when every export stands where it was asked for. -/
  below : ∀ response, Response.to host disk directory observedAt arguments = .ok response →
    response.exitCode = belowThreshold →
    ∃ command parameters shown,
      Presents host disk directory observedAt arguments command parameters shown ∧
        (parameters.failUnder == 0) = false ∧
        shown.exports.map Export.path = command.exportPaths parameters.exportTo ∧
        ∀ report ∈ shown.exports,
          report.Stands directory (diskLeft host disk directory observedAt arguments)

end Invocations

section Invoked

variable {host : Host} {disk : Disk} {directory : Place} {observedAt : String}
  {arguments : List String} {command : Command} {parameters : Parameters} {shown : Presentation}

theorem diskMet_of_compilerSparesDisk (spares : CompilerSparesDisk host disk directory arguments)
    (asked : Request.ofArguments disk directory arguments = .ok (.run command parameters))
    (project : Project) (opened : openProject host disk directory parameters = .ok project) :
    command.diskMet project disk = disk := by
  by_cases scans : command = .components
  · rw [scans, Command.diskMet]
  · have quiet : project.diskAfter disk = disk := by
      by_cases given : parameters.diagnosticsFile = none
      · exact spares command parameters project asked scans given opened
      · exact diskAfter_of_diagnosticsFile opened given
    cases command with
    | analyze | patterns | fixes | quality => exact quiet
    | components => exact absurd rfl scans

/-- A failure is answered with the disk as it was, and with no word about a score. -/
theorem response_of_error {failure : Failure} {notes : List Note} {response : Response}
    (answered : Response.ofRun disk (.error failure, notes) = .ok response) :
    failure.message? ≠ none ∧ response.disk = disk ∧ response.exitCode = couldNotRun := by
  simp only [Response.ofRun] at answered
  split at answered
  · next message told =>
      rw [← Except.ok.inj answered]
      exact ⟨by rw [told]; exact Option.some_ne_none message, rfl, rfl⟩
  · cases answered

/-- Arguments that ask for no command are answered with the disk as it was. -/
theorem response_of_not_run
    (unasked : ∀ command parameters,
      Request.ofArguments disk directory arguments ≠ .ok (.run command parameters))
    {response : Response}
    (answered : Response.to host disk directory observedAt arguments = .ok response) :
    response.disk = disk ∧ response.exitCode ≠ belowThreshold := by
  have distinct : couldNotRun ≠ belowThreshold ∧ 0 ≠ belowThreshold := by decide
  unfold Response.to at answered
  split at answered
  · cases answered
  · rw [← Except.ok.inj answered]
    exact ⟨rfl, distinct.1⟩
  · rw [← Except.ok.inj answered]
    exact ⟨rfl, distinct.2⟩
  · rw [← Except.ok.inj answered]
    exact ⟨rfl, distinct.2⟩
  · next command parameters asked => exact absurd asked (unasked command parameters)

theorem diskLeft_of_not_run
    (unasked : ∀ command parameters,
      Request.ofArguments disk directory arguments ≠ .ok (.run command parameters)) :
    diskLeft host disk directory observedAt arguments = disk := by
  unfold diskLeft
  split
  · next command parameters asked => exact absurd asked (unasked command parameters)
  · rfl

theorem diskLeft_of_run
    (asked : Request.ofArguments disk directory arguments = .ok (.run command parameters)) :
    diskLeft host disk directory observedAt arguments =
      (command.effect host parameters disk directory observedAt parameters.attention).left := by
  rw [diskLeft, asked]

/-- The answer to a command that runs is that to what its effect comes to. -/
theorem exists_to_of_run
    (asked : Request.ofArguments disk directory arguments = .ok (.run command parameters))
    (observedAt : String) :
    ∃ notes, Response.to host disk directory observedAt arguments = Response.ofRun disk
      ((command.effect host parameters disk directory observedAt parameters.attention).answer,
        notes) := by
  refine ⟨((command.run host parameters disk directory observedAt).perform
    parameters.attention).2, ?_⟩
  rw [Response.to, asked, ← Command.result_run]
  rfl

/-- **An invocation does nothing, or it presents something**: then it is answered when all exports
have been written, and not with the exit code of one that could not run. -/
theorem diskLeft_cases (spares : CompilerSparesDisk host disk directory arguments)
    (observedAt : String) :
    (diskLeft host disk directory observedAt arguments = disk ∧
      ∀ response, Response.to host disk directory observedAt arguments = .ok response →
        response.disk = disk ∧ response.exitCode ≠ belowThreshold) ∨
    ∃ command parameters shown,
      Presents host disk directory observedAt arguments command parameters shown ∧
        diskLeft host disk directory observedAt arguments =
          (exportsEffect directory shown.exports disk).left ∧
        ∀ response, Response.to host disk directory observedAt arguments = .ok response →
          (exportsEffect directory shown.exports disk).answer = .ok () ∧
            response.disk = (exportsEffect directory shown.exports disk).left ∧
            response.exitCode = if shown.passed then 0 else belowThreshold := by
  by_cases runs : ∃ command parameters,
      Request.ofArguments disk directory arguments = .ok (.run command parameters)
  case neg =>
    have unasked : ∀ command parameters,
        Request.ofArguments disk directory arguments ≠ .ok (.run command parameters) :=
      fun command parameters asked => runs ⟨command, parameters, asked⟩
    exact .inl ⟨diskLeft_of_not_run unasked, fun _ => response_of_not_run unasked⟩
  case pos =>
    obtain ⟨command, parameters, asked⟩ := runs
    obtain ⟨notes, answer⟩ := exists_to_of_run asked observedAt
    rw [diskLeft_of_run asked, answer]
    rcases Command.effect_cases (diskMet_of_compilerSparesDisk spares asked) observedAt
        parameters.attention with
      ⟨failure, failed⟩ | ⟨project, shown, opened, prepared, presented⟩
    · rw [failed]
      refine .inl ⟨rfl, fun response answered => ?_⟩
      obtain ⟨_, same, code⟩ := response_of_error answered
      exact ⟨same, by rw [code]; decide⟩
    · rw [presented]
      refine .inr ⟨command, parameters, shown, ⟨asked, project, opened, prepared⟩,
        Presentation.left_savingEffect, fun response answered => ?_⟩
      cases ended : (shown.savingEffect host directory disk).answer with
      | error failure =>
          -- What is answered has a text, and neither an export nor a terminal fails with one.
          rw [ended] at answered
          have told := (response_of_error answered).1
          exact absurd (Presentation.failsSilently_savingEffect failure ended) told
      | ok completion =>
          rw [ended] at answered
          obtain ⟨written, same⟩ := Presentation.completed_of_savingEffect ended
          rw [← Except.ok.inj answered, ← same]
          exact ⟨written, rfl, rfl⟩

/-- The exports of a presentation have places that are asked for. -/
theorem places_of_presents
    (presents : Presents host disk directory observedAt arguments command parameters shown) :
    ∀ place ∈ shown.exports.map fun report => report.place directory,
      place ∈ exportPlaces disk directory arguments := by
  obtain ⟨asked, project, _, prepared⟩ := presents
  intro place member
  obtain ⟨report, among, rfl⟩ := List.mem_map.1 member
  have paths := (suits_of_prepare prepared).paths (.inl (List.ne_nil_of_mem among))
  have listed : report.path ∈ command.exportPaths parameters.exportTo :=
    paths ▸ List.mem_map_of_mem among
  rw [exportPlaces, asked]
  exact List.mem_map_of_mem (f := exportPlace directory) listed

theorem spares_diskLeft (spares : CompilerSparesDisk host disk directory arguments)
    (observedAt : String) : disk.Spares (diskLeft host disk directory observedAt arguments)
      (exportPlaces disk directory arguments) := by
  rcases diskLeft_cases spares observedAt with ⟨same, _⟩ | ⟨_, _, shown, presents, left, _⟩
  · rw [same]
    exact disk.spares_refl _
  · rw [left]
    exact (spares_exportsEffect directory shown.exports disk).mono (places_of_presents presents)

/-- Where no export is asked for nothing is done. -/
theorem diskLeft_of_exportPlaces (spares : CompilerSparesDisk host disk directory arguments)
    (none : exportPlaces disk directory arguments = []) (observedAt : String) :
    diskLeft host disk directory observedAt arguments = disk := by
  rcases diskLeft_cases spares observedAt with ⟨same, _⟩ | ⟨_, _, shown, presents, left, _⟩
  · exact same
  · have empty : shown.exports = [] := by
      by_contra some
      obtain ⟨report, among⟩ := List.exists_mem_of_ne_nil _ some
      have listed := places_of_presents presents _ (List.mem_map_of_mem among)
      rw [none] at listed
      cases listed
    rw [left, empty]
    rfl

theorem exportPlaces_of_unnamed (unnamed : ∀ argument ∈ arguments, ¬ NamesExport argument) :
    exportPlaces disk directory arguments = [] := by
  unfold exportPlaces
  split
  · next command parameters asked =>
      have none : parameters.exportTo = none := by
        by_contra exporting
        obtain ⟨argument, member, named⟩ := namesExport_of_ofArguments asked exporting
        exact unnamed argument member named
      rw [none]
      rfl
  · rfl

/-- What was presented with a score below its threshold stands where it was asked for. -/
theorem stands_of_not_passed
    (presents : Presents host disk directory observedAt arguments command parameters shown)
    (ended : (exportsEffect directory shown.exports disk).answer = .ok ())
    (failed : shown.passed = false) :
    shown.exports.map Export.path = command.exportPaths parameters.exportTo ∧
      ∀ report ∈ shown.exports,
        report.Stands directory (exportsEffect directory shown.exports disk).left := by
  obtain ⟨project, _, prepared⟩ := presents.prepared
  have paths := (suits_of_prepare prepared).paths (.inr failed)
  have places : shown.exports.map (fun report => report.place directory) =
      (command.exportPaths parameters.exportTo).map (exportPlace directory) := by
    rw [← paths, List.map_map]
    rfl
  have apart : (shown.exports.map fun report => report.place directory).Nodup := by
    rw [places]
    exact nodup_map_exportPlace command directory parameters.exportTo
  exact ⟨paths, stands_of_exportsEffect ended apart⟩

end Invoked

/-- **An invocation leaves the project alone**, when the diagnostics are read from a file or the
compiler changes nothing. -/
theorem invocations_spare_the_project (host : Host) (disk : Disk) (directory : Place)
    (observedAt : String) (arguments : List String)
    (spares : CompilerSparesDisk host disk directory arguments) :
    SparesProject host disk directory observedAt arguments := by
  have ends := diskLeft_cases spares observedAt
  constructor
  case answered =>
    intro response answered
    rcases ends with ⟨same, idle⟩ | ⟨_, _, shown, _, left, complete⟩
    · rw [same, (idle response answered).1]
    · rw [left, (complete response answered).2.1]
  case kept =>
    intro place bytes away stood
    exact (spares_diskLeft spares observedAt).nodeAt_eq away stood
  case spared => exact spares_diskLeft spares observedAt
  case unasked =>
    intro none
    exact diskLeft_of_exportPlaces spares none observedAt
  case unnamed => exact exportPlaces_of_unnamed
  case refused =>
    intro response answered code
    rcases ends with ⟨same, _⟩ | ⟨_, _, shown, _, _, complete⟩
    · exact same
    · have other := (complete response answered).2.2
      rw [code] at other
      split at other <;> cases other
  case below =>
    intro response answered code
    rcases ends with ⟨_, idle⟩ | ⟨command, parameters, shown, presents, left, complete⟩
    · exact absurd code (idle response answered).2
    · obtain ⟨ended, _, other⟩ := complete response answered
      have failed : shown.passed = false := by
        rw [code] at other
        split at other
        · cases other
        · next failed => exact eq_false_of_ne_true failed
      obtain ⟨project, _, prepared⟩ := presents.prepared
      obtain ⟨paths, stand⟩ := stands_of_not_passed presents ended failed
      rw [left]
      exact ⟨command, parameters, shown, presents, (suits_of_prepare prepared).threshold failed,
        paths, stand⟩

/-- Ask for the patterns of a project whose diagnostics are in a file. -/
def patternsExport : List String :=
  ["patterns", "--diagnostics-file", "d.json", "--export", "out/p.json"]

theorem patternsExport_spares_recordedDisk :
    exportPlaces recordedDisk [] patternsExport = [["out", "p.json"]] ∧
      SparesProject .plain recordedDisk [] "today" patternsExport ∧
      (diskLeft .plain recordedDisk [] "today" patternsExport).nodeAt ["d.json"] =
        recordedDisk.nodeAt ["d.json"] := by
  have asked : Request.ofArguments recordedDisk [] patternsExport = .ok (.run .patterns
      { diagnosticsFile := some ⟨0, ["d.json"]⟩, exportTo := some ⟨0, ["out", "p.json"]⟩ }) := rfl
  have quiet : CompilerSparesDisk .plain recordedDisk [] patternsExport := by
    intro command parameters project run _ compiled _
    cases asked.symm.trans run
    cases compiled
  have places : exportPlaces recordedDisk [] patternsExport = [["out", "p.json"]] := by
    rw [exportPlaces, asked]
    rfl
  have spares := invocations_spare_the_project .plain recordedDisk [] "today" patternsExport
    quiet
  obtain ⟨bytes, stood⟩ : ∃ bytes, recordedDisk.nodeAt ["d.json"] = some (.file bytes) :=
    ⟨_, rfl⟩
  refine ⟨places, spares, ?_⟩
  rw [stood]
  exact spares.kept ["d.json"] bytes (by rw [places]; decide) stood

end CommandLine

end Triage
