import Triage.CommandLine.Replay
import Triage.Proofs.CommandLine.Commands

/-!
# Single commands and the whole analysis

An analysis that returns has returned what the single commands compute of the same project, but
for the time of observation (`results_alone_of_analyze`), and it does return when all of them do
(`exists_result_analyze_iff`).  So a single command presents a part of the analysis
(`results_of_analyze`, `scan_of_analyze`), and exit codes agree, since they depend on the score
alone (`passed_runAnalyze`, `passed_runQuality`).  `commands_agree_with_analysis` says all of this
of the project that a command opens, on any host.

Three conditions cannot be left out (`commands_need_not_agree_with_analysis`).  The components
command runs no compiler, so it does not see a source file that the compiler would write.  A
setting that is no text may end an analysis in a stage that a single command does not come to.
And only the analysis prints a line with the path of the project, which a terminal may refuse for
its brackets.
-/

namespace Triage

set_option autoImplicit false

variable {attention : Attention}

/-! ## Reports at another time -/

/-- A pattern report as it would have been observed at another time. -/
def PatternReport.observed (report : PatternReport) (observedAt : String) : PatternReport :=
  { report with
    trends := report.trends.map fun trend => { trend with firstSeen := observedAt }
    observedAt }

/-- A fix report as it would have been observed at another time. -/
def FixReport.observed (report : FixReport) (observedAt : String) : FixReport :=
  { report with observedAt }

/-- The metrics of a quality report as they would have been observed at another time. -/
def QualityReport.observed (report : QualityReport Float) (observedAt : String) :
    QualityReport Float :=
  { report with components := none, observedAt }

theorem observed_recognizePatterns {Number : Type} (subsystems : List (Subsystem Number))
    (observedAt later : String) (diagnostics : List Diagnostic) :
    (recognizePatterns subsystems observedAt diagnostics).observed later =
      recognizePatterns subsystems later diagnostics := by
  simp only [PatternReport.observed, recognizePatterns, List.map_map]
  rfl

theorem observed_recommendFixes {Number : Type} (profile : Profile)
    (subsystems : List (Subsystem Number)) (observedAt later : String)
    (diagnostics : List Diagnostic) :
    (recommendFixes profile subsystems observedAt diagnostics).observed later =
      recommendFixes profile subsystems later diagnostics := rfl

section Results

variable {project : Project} {disk : Disk} {observedAt : String} {withComponents : Bool}

section Collected

variable {collection : CollectionReport}
  (collected : (project.collect disk).result attention = .ok collection)
include collected

theorem result_patternsAlone (observedAt : String) :
    (project.patternsAlone disk observedAt).result attention =
      (reportPatterns project.subsystems observedAt collection.diagnostics).result attention := by
  refine (Run.result_bind fun _ => settles_reportPatterns _ _ _).trans ?_
  rw [collected]
  rfl

theorem result_fixesAlone (observedAt : String) :
    (project.fixesAlone disk observedAt).result attention =
      (reportFixes project.config.compiler project.subsystems observedAt
        collection.diagnostics).result attention := by
  refine (Run.result_bind fun _ => settles_reportFixes _ _ _ _).trans ?_
  rw [collected]
  rfl

/-- The quality command checks that patterns can be found, but does not count for subsystems. -/
theorem result_qualityAlone_eq_ok_iff {answer : CollectionReport × QualityReport Float} :
    (project.qualityAlone disk observedAt).result attention = .ok answer ↔
      collection = answer.1 ∧
        checkPatterns project.subsystems collection.diagnostics = .ok () ∧
        (reportQuality (project.diskAfter disk) (project.qualityScope none) observedAt
          collection.diagnostics (findPatterns project.subsystems collection.diagnostics)
            false).result attention = .ok answer.2 := by
  have stages : (project.qualityAlone disk observedAt).result attention = (do
      checkPatterns project.subsystems collection.diagnostics
      let report ← (reportQuality (project.diskAfter disk) (project.qualityScope none) observedAt
        collection.diagnostics (findPatterns project.subsystems collection.diagnostics)
          false).result attention
      return (collection, report)) := by
    refine (Run.result_bind fun collection => Run.returns_bind (Run.returns_lift _) fun _ =>
      Run.returns_bind (settles_reportQuality _ _ _ _ _ _) fun report =>
        Run.returns_pure (collection, report)).trans ?_
    rw [collected]
    rfl
  rw [stages]
  constructor
  · intro returned
    obtain ⟨_, recurring, further⟩ := bind_eq_ok.1 returned
    obtain ⟨report, measured, further⟩ := bind_eq_ok.1 further
    rw [← Except.ok.inj further]
    exact ⟨rfl, recurring, measured⟩
  · obtain ⟨_, report⟩ := answer
    rintro ⟨rfl, recurring, measured⟩
    exact bind_eq_ok.2 ⟨(), recurring, bind_eq_ok.2 ⟨report, measured, rfl⟩⟩

end Collected

/-- Metrics do not depend on the time, nor on whether components are wanted. -/
theorem result_reportQuality_observed {scope : QualityScope Float} {diagnostics : List Diagnostic}
    {patterns : List ErrorPattern} {report : QualityReport Float}
    (measured : (reportQuality disk scope observedAt diagnostics patterns withComponents).result
      attention = .ok report) (later : String) :
    (reportQuality disk scope later diagnostics patterns false).result attention =
      .ok (report.observed later) :=
  result_reportQuality_eq_ok_iff.2 ⟨(result_reportQuality_eq_ok_iff.1 measured).1, rfl, rfl⟩

/-- **What an analysis returns, single commands return too**, at whatever time they are given. -/
theorem results_alone_of_analyze {analysis : Analysis}
    (returned : (project.analyze disk none observedAt withComponents).result attention =
      .ok analysis) (later : String) :
    (project.patternsAlone disk later).result attention = .ok (analysis.patterns.observed later) ∧
      (project.fixesAlone disk later).result attention = .ok (analysis.fixes.observed later) ∧
      (project.qualityAlone disk later).result attention =
        .ok (analysis.collection, analysis.quality.observed later) := by
  obtain ⟨collected, recognized, recommended, measured, _⟩ :=
    Project.result_analyze_eq_ok_iff.1 returned
  obtain ⟨recurring, counted, patterns⟩ := result_reportPatterns_eq_ok_iff.1 recognized
  obtain ⟨suggested, fixes⟩ := result_reportFixes_eq_ok_iff.1 recommended
  rw [result_patternsAlone collected, result_fixesAlone collected]
  refine ⟨?_, ?_, (result_qualityAlone_eq_ok_iff collected).2 ⟨rfl, recurring, ?_⟩⟩
  · rw [← patterns, observed_recognizePatterns]
    exact result_reportPatterns_eq_ok_iff.2 ⟨recurring, counted, rfl⟩
  · rw [← fixes, observed_recommendFixes]
    exact result_reportFixes_eq_ok_iff.2 ⟨suggested, rfl⟩
  · rw [← patterns] at measured
    exact result_reportQuality_observed measured later

/-- **An analysis completes exactly when the single commands do**, and the scan of the components
if it is wanted. -/
theorem exists_result_analyze_iff (observedAt later : String) (withComponents : Bool) :
    (∃ analysis, (project.analyze disk none observedAt withComponents).result attention =
        .ok analysis) ↔
      (∃ report, (project.patternsAlone disk later).result attention = .ok report) ∧
        (∃ report, (project.fixesAlone disk later).result attention = .ok report) ∧
        (∃ answer, (project.qualityAlone disk later).result attention = .ok answer) ∧
        (withComponents = true → ∃ scan,
          (project.componentsAlone (project.diskAfter disk)).result attention = .ok scan) := by
  constructor
  · rintro ⟨analysis, returned⟩
    obtain ⟨patterns, fixes, quality⟩ := results_alone_of_analyze returned later
    refine ⟨⟨_, patterns⟩, ⟨_, fixes⟩, ⟨_, quality⟩, fun wanted => ?_⟩
    obtain ⟨_, _, _, measured, _⟩ := Project.result_analyze_eq_ok_iff.1 returned
    have components := (result_reportQuality_eq_ok_iff.1 measured).2.1
    rw [if_pos wanted] at components
    obtain ⟨scan, _, scanned⟩ := components
    exact ⟨scan, scanned⟩
  · rintro ⟨⟨patterns, recognized⟩, ⟨fixes, recommended⟩, ⟨answer, measured⟩, scanned⟩
    obtain ⟨collection, collected⟩ : ∃ collection,
        (project.collect disk).result attention = .ok collection := by
      rw [Project.patternsAlone] at recognized
      obtain ⟨collection, _, collected, _⟩ := Run.ok_of_result_bind recognized
      exact ⟨collection, collected⟩
    rw [result_patternsAlone collected] at recognized
    rw [result_fixesAlone collected] at recommended
    obtain ⟨_, _, measured⟩ := (result_qualityAlone_eq_ok_iff collected).1 measured
    obtain ⟨recurring, counted, _⟩ := result_reportPatterns_eq_ok_iff.1 recognized
    obtain ⟨suggested, _⟩ := result_reportFixes_eq_ok_iff.1 recommended
    have metrics := (result_reportQuality_eq_ok_iff.1 measured).1
    obtain ⟨components, known⟩ : ∃ components, if withComponents = true then
        ∃ scan, components = some scan ∧
          (project.componentsAlone (project.diskAfter disk)).result attention = .ok scan
        else components = none := by
      cases withComponents with
      | false => exact ⟨none, rfl⟩
      | true =>
          obtain ⟨scan, found⟩ := scanned rfl
          exact ⟨some scan, scan, rfl, found⟩
    let analysis : Analysis :=
      { collection
        patterns := recognizePatterns project.subsystems observedAt collection.diagnostics
        fixes := recommendFixes project.config.compiler project.subsystems observedAt
          collection.diagnostics
        quality := ⟨answer.2.metrics, components, observedAt⟩
        observedAt }
    refine ⟨analysis, Project.result_analyze_eq_ok_iff.2 ⟨collected, ?_, ?_, ?_, rfl⟩⟩
    · exact result_reportPatterns_eq_ok_iff.2 ⟨recurring, counted, rfl⟩
    · exact result_reportFixes_eq_ok_iff.2 ⟨suggested, rfl⟩
    · exact result_reportQuality_eq_ok_iff.2 ⟨metrics, known, rfl⟩

end Results

namespace CommandLine

/-! ## The commands agree -/

/-- Single commands agree with the analysis of a project, at whatever times they are given. -/
structure CommandsAgree (host : Host) (parameters : Parameters) (disk : Disk) (directory : Place)
    (attention : Attention) (project : Project) (observedAt later : String) : Prop where
  /-- An analysis completes exactly when the single commands come to their reports and, if it is
  wanted, the scan of the components does. -/
  completes : ∀ withComponents,
    (∃ analysis, (project.analyze disk none observedAt withComponents).result attention =
        .ok analysis) ↔
      (∃ report, (project.patternsAlone disk later).result attention = .ok report) ∧
        (∃ report, (project.fixesAlone disk later).result attention = .ok report) ∧
        (∃ answer, (project.qualityAlone disk later).result attention = .ok answer) ∧
        (withComponents = true → ∃ scan,
          (project.componentsAlone (project.diskAfter disk)).result attention = .ok scan)
  /-- It always completes when the settings that would be texts are texts. -/
  textual : project.config.compiler.Textual → project.config.analysis.Textual →
    ∀ withComponents, ∃ analysis,
      (project.analyze disk none observedAt withComponents).result attention = .ok analysis
  /-- The reports of the single commands are parts of the analysis. -/
  reports : ∀ withComponents analysis,
    (project.analyze disk none observedAt withComponents).result attention = .ok analysis →
      (project.patternsAlone disk later).result attention =
          .ok (analysis.patterns.observed later) ∧
        (project.fixesAlone disk later).result attention = .ok (analysis.fixes.observed later) ∧
        (project.qualityAlone disk later).result attention =
          .ok (analysis.collection, analysis.quality.observed later)
  /-- The single commands present these parts, once they have been found to fit on a panel. -/
  commands : ∀ withComponents analysis,
    (project.analyze disk none observedAt withComponents).result attention = .ok analysis →
      (runPatterns host parameters disk directory later).result attention =
          (host.present (.ofPatterns parameters (analysis.patterns.observed later)) directory
            (project.diskAfter disk)).result attention ∧
        (runFixes host parameters disk directory later).result attention = (do
          Display.checkPanel (analysis.fixes.observed later) parameters.limit
          (host.present (.ofFixes parameters (analysis.fixes.observed later)) directory
            (project.diskAfter disk)).result attention) ∧
        (runQuality host parameters disk directory later).result attention = (do
          Display.checkCard analysis.quality.metrics
          (host.present (.ofQuality parameters analysis.collection
            (analysis.quality.observed later)) directory (project.diskAfter disk)).result
              attention)
  /-- The components command presents the components of the analysis when the compiler has left
  the source files as they were. -/
  components : project.subsystems ≠ [] →
    project.tree.SameSources disk (project.diskAfter disk) → ∀ analysis,
      (project.analyze disk none observedAt true).result attention = .ok analysis →
        ∃ scan, analysis.quality.components = some scan ∧
          (project.componentsAlone disk).result attention = .ok scan ∧ ∀ target,
            (runComponents host (parameters.forScan target) disk directory later).result
                attention =
              (host.present (.ofScan (parameters.forScan target) later scan) directory
                disk).result attention
  /-- Records from a file leave the source files as they were. -/
  unchanged : parameters.diagnosticsFile ≠ none →
    project.tree.SameSources disk (project.diskAfter disk)
  /-- The score decides about both exit codes, where the terminal can show what the whole analysis
  says beyond the report card: that it has begun, and how much its stages have found. -/
  exitCodes : parameters.exportTo = none → ∀ analysis,
    (project.analyze disk none observedAt false).result attention = .ok analysis →
      host.show (progressLine project.tree.root :: stageLines analysis) = .ok () →
        (Response.ofRun disk ((runAnalyze host parameters disk directory observedAt).perform
            attention)).map Response.exitCode =
          (Response.ofRun disk ((runQuality host parameters disk directory later).perform
            attention)).map Response.exitCode
  /-- Where it cannot show that the whole analysis has begun, there is no exit code for that. -/
  unbegun : host.shows (progressLine project.tree.root) = false →
    Response.ofRun disk ((runAnalyze host parameters disk directory observedAt).perform
      attention) = .error .unshown
  /-- Where both commands complete, they pass or fail alike, whatever they export. -/
  passed : ∀ target other analyzed measured,
    (runAnalyze host { parameters with exportTo := target } disk directory observedAt).result
        attention = .ok analyzed →
      (runQuality host { parameters with exportTo := other } disk directory later).result
          attention = .ok measured →
        analyzed.passed = measured.passed

section Agreement

variable {host : Host} {parameters : Parameters} {disk : Disk} {directory : Place}
  {project : Project} {observedAt : String}
  (opened : openProject host disk directory parameters = .ok project)
include opened

/-- What an analysis returns, the single commands present, at whatever time they are given. -/
theorem results_of_analyze {withComponents : Bool} {analysis : Analysis}
    (returned : (project.analyze disk none observedAt withComponents).result attention =
      .ok analysis) (later : String) :
    (runPatterns host parameters disk directory later).result attention =
        (host.present (.ofPatterns parameters (analysis.patterns.observed later)) directory
          (project.diskAfter disk)).result attention ∧
      (runFixes host parameters disk directory later).result attention = (do
        Display.checkPanel (analysis.fixes.observed later) parameters.limit
        (host.present (.ofFixes parameters (analysis.fixes.observed later)) directory
          (project.diskAfter disk)).result attention) ∧
      (runQuality host parameters disk directory later).result attention = (do
        Display.checkCard analysis.quality.metrics
        (host.present (.ofQuality parameters analysis.collection
          (analysis.quality.observed later)) directory (project.diskAfter disk)).result
            attention) := by
  obtain ⟨patterns, fixes, quality⟩ := results_alone_of_analyze returned later
  rw [result_runPatterns opened, result_runFixes opened, result_runQuality opened, patterns, fixes,
    quality]
  exact ⟨rfl, rfl, rfl⟩

/-- The components command scans what the analysis does, as long as it sees the same source
files. -/
theorem scan_of_analyze (same : project.tree.SameSources disk (project.diskAfter disk))
    {analysis : Analysis}
    (returned : (project.analyze disk none observedAt true).result attention = .ok analysis) :
    ∃ scan, analysis.quality.components = some scan ∧
      (project.componentsAlone disk).result attention = .ok scan ∧
      (project.subsystems ≠ [] → ∀ target later,
        (runComponents host (parameters.forScan target) disk directory later).result attention =
          (host.present (.ofScan (parameters.forScan target) later scan) directory disk).result
            attention) := by
  obtain ⟨_, _, _, measured, _⟩ := Project.result_analyze_eq_ok_iff.1 returned
  obtain ⟨scan, known, scanned⟩ := (result_reportQuality_eq_ok_iff.1 measured).2.1
  have alone : (project.componentsAlone disk).result attention = .ok scan := by
    rw [Project.componentsAlone, ← result_reportComponents_congr same]
    exact scanned
  refine ⟨scan, known, alone, fun designated target later => ?_⟩
  obtain ⟨other, otherOpened, sameScan, subsystems⟩ := exists_openProject_forScan opened target
  rw [result_runComponents otherOpened later (subsystems ▸ designated), sameScan, alone]
  rfl

/-- Without exports an analysis completes, beyond what it says alone, when its report card can be
made and shown, and it passes by its score. -/
theorem passed_runAnalyze {analysis : Analysis} (unexported : parameters.exportTo = none)
    (returned : (project.analyze disk none observedAt false).result attention = .ok analysis)
    (shown : host.show (progressLine project.tree.root :: stageLines analysis) = .ok ()) :
    ((runAnalyze host parameters disk directory observedAt).result attention).map
        Completion.passed = (do
      Display.checkCard analysis.quality.metrics
      host.show (cardOf analysis.quality.metrics analysis.collection)
      host.show (thresholdLines parameters.failUnder analysis.quality.metrics.overall.score)
      return passes parameters.failUnder analysis.quality.metrics.overall.score) := by
  have apart := (host.show_append [progressLine project.tree.root] (stageLines analysis)).symm.trans
    shown
  obtain ⟨_, begun, told⟩ := bind_eq_ok.1 apart
  have unsaved : (Presentation.ofAnalysis parameters project.tree.root analysis).exports = [] := by
    rw [Presentation.ofAnalysis, unexported]
    rfl
  have card : host.show (Presentation.ofAnalysis parameters project.tree.root analysis).before =
      host.show (cardOf analysis.quality.metrics analysis.collection) := by
    rw [Presentation.ofAnalysis, Host.show_append, told]
    exact bind_pure _
  rw [result_runAnalyze opened, begun, returned]
  change Except.map _ (Display.checkCard _ >>= _) = _
  cases Display.checkCard analysis.quality.metrics with
  | error failure => rfl
  | ok _ =>
      refine (passed_present_of_exports unsaved).trans ?_
      rw [card]
      rfl

/-- So does the quality command, which says nothing else. -/
theorem passed_runQuality {withComponents : Bool} {analysis : Analysis}
    (unexported : parameters.exportTo = none)
    (returned : (project.analyze disk none observedAt withComponents).result attention =
      .ok analysis) (later : String) :
    ((runQuality host parameters disk directory later).result attention).map
        Completion.passed = (do
      Display.checkCard analysis.quality.metrics
      host.show (cardOf analysis.quality.metrics analysis.collection)
      host.show (thresholdLines parameters.failUnder analysis.quality.metrics.overall.score)
      return passes parameters.failUnder analysis.quality.metrics.overall.score) := by
  have unsaved : (Presentation.ofQuality parameters analysis.collection
      (analysis.quality.observed later)).exports = [] := by
    rw [Presentation.ofQuality, unexported]
    rfl
  rw [(results_of_analyze opened returned later).2.2]
  cases Display.checkCard analysis.quality.metrics with
  | error failure => rfl
  | ok _ => exact passed_present_of_exports unsaved

/-- An analysis that completes has passed by its score. -/
theorem passed_of_runAnalyze {completion : Completion}
    (completed : (runAnalyze host parameters disk directory observedAt).result attention =
      .ok completion) :
    ∃ analysis, (project.analyze disk none observedAt false).result attention = .ok analysis ∧
      completion.passed =
        passes parameters.failUnder analysis.quality.metrics.overall.score := by
  rw [result_runAnalyze opened] at completed
  obtain ⟨_, _, further⟩ := bind_eq_ok.1 completed
  obtain ⟨analysis, returned, further⟩ := bind_eq_ok.1 further
  obtain ⟨_, _, presented⟩ := bind_eq_ok.1 further
  exact ⟨analysis, returned, passed_of_present presented⟩

/-- A quality command that completes has passed by the score of the analysis. -/
theorem passed_of_runQuality {withComponents : Bool} {analysis : Analysis}
    (returned : (project.analyze disk none observedAt withComponents).result attention =
      .ok analysis) {later : String} {completion : Completion}
    (completed : (runQuality host parameters disk directory later).result attention =
      .ok completion) :
    completion.passed = passes parameters.failUnder analysis.quality.metrics.overall.score := by
  rw [(results_of_analyze opened returned later).2.2] at completed
  obtain ⟨_, _, presented⟩ := bind_eq_ok.1 completed
  exact passed_of_present presented

/-- An analysis that cannot be said to have begun ends there. -/
theorem result_runAnalyze_of_unbegun
    (unshown : host.shows (progressLine project.tree.root) = false) :
    (runAnalyze host parameters disk directory observedAt).result attention = .error .unshown := by
  have refused : host.show [progressLine project.tree.root] = .error .unshown := by
    rw [Host.show, List.all_cons, unshown]
    rfl
  rw [result_runAnalyze opened, refused]
  rfl

end Agreement

/-- **Single commands agree with the whole analysis** wherever the diagnostics of the project
can be collected. -/
theorem commands_agree_with_analysis (host : Host) (parameters : Parameters) (disk : Disk)
    (directory : Place) (attention : Attention) (observedAt later : String) (project : Project)
    (collection : CollectionReport)
    (opened : openProject host disk directory parameters = .ok project)
    (collected : (project.collect disk).result attention = .ok collection) :
    CommandsAgree host parameters disk directory attention project observedAt later where
  completes withComponents := exists_result_analyze_iff observedAt later withComponents
  textual profileTextual optionsTextual withComponents := by
    obtain ⟨analysis, returned, _⟩ := Project.exists_result_analyze_of_textual
      (isRead_of_openProject opened) profileTextual optionsTextual collected
    exact ⟨analysis, returned⟩
  reports withComponents analysis returned := results_alone_of_analyze returned later
  commands withComponents analysis returned := results_of_analyze opened returned later
  components designated same analysis returned := by
    obtain ⟨scan, known, alone, presented⟩ := scan_of_analyze opened same returned
    exact ⟨scan, known, alone, fun target => presented designated target later⟩
  unchanged given := by
    rw [diskAfter_of_diagnosticsFile opened given]
    exact project.tree.sameSources_refl disk
  exitCodes unexported analysis returned shown := by
    rw [exitCode_ofRun, exitCode_ofRun]
    exact congrArg exitCodeOf ((passed_runAnalyze opened unexported returned shown).trans
      (passed_runQuality opened unexported returned later).symm)
  unbegun unshown := ofRun_of_silent disk (result_runAnalyze_of_unbegun opened unshown) rfl
  passed target other analyzed measured completed alone := by
    -- The project that is opened does not depend on the export.
    have first : openProject host disk directory { parameters with exportTo := target } =
        .ok project := opened
    have second : openProject host disk directory { parameters with exportTo := other } =
        .ok project := opened
    obtain ⟨analysis, returned, passed⟩ := passed_of_runAnalyze first completed
    exact passed.trans (passed_of_runQuality second returned alone).symm

/-- The text of a file with the record of a diagnostic. -/
def recordedText : String :=
  "[\x7b\"file\": \"a.ts\", \"line\": 1, \"column\": 1, \"code\": 2304\x7d]"

/-- A project with the record of a diagnostic in a file. -/
def recordedDisk : Disk := Disk.empty.put ["d.json"] (.file recordedText.toUTF8)

/-- Take the records from the file, and look after payments. -/
def recordedParameters : Parameters :=
  { diagnosticsFile := some ⟨0, ["d.json"]⟩, subsystems := ["payments"] }

theorem commands_agree_with_analysis_of_recordedDisk : ∃ project collection,
    openProject .plain recordedDisk [] recordedParameters = .ok project ∧
      (project.collect recordedDisk).result .warnings = .ok collection ∧
      collection.diagnostics.length = 1 ∧
      CommandsAgree .plain recordedParameters recordedDisk [] .warnings project "today"
        "tomorrow" ∧
      (∃ analysis, (project.analyze recordedDisk none "today" true).result .warnings =
        .ok analysis) ∧
      (Response.ofRun recordedDisk ((runAnalyze .plain recordedParameters recordedDisk []
          "today").perform .warnings)).map Response.exitCode =
        (Response.ofRun recordedDisk ((runQuality .plain recordedParameters recordedDisk []
          "tomorrow").perform .warnings)).map Response.exitCode := by
  have checked : (openProject .plain recordedDisk [] recordedParameters).toOption.any
      (fun project => decide project.config.compiler.Textual &&
        decide project.config.analysis.Textual &&
        ((project.collect recordedDisk).result .warnings).toOption.any fun collection =>
          decide (collection.diagnostics.length = 1)) = true := by
    decide +kernel
  obtain ⟨project, opened, checked⟩ := exists_of_any_toOption checked
  simp only [Bool.and_eq_true, decide_eq_true_eq] at checked
  obtain ⟨⟨profileTextual, optionsTextual⟩, counted⟩ := checked
  obtain ⟨collection, collected, counted⟩ := exists_of_any_toOption counted
  have agree := commands_agree_with_analysis .plain recordedParameters recordedDisk []
    .warnings "today" "tomorrow" project collection opened collected
  obtain ⟨analysis, returned⟩ := agree.textual profileTextual optionsTextual false
  exact ⟨project, collection, opened, collected, of_decide_eq_true counted, agree,
    agree.textual profileTextual optionsTextual true,
    agree.exitCodes rfl analysis returned (Host.show_plain _)⟩

/-! ## Where they do not -/

/-- A project whose compiler command writes a source file before it checks. -/
def generatingDisk : Disk :=
  (Disk.empty.put ["tsconfig.json"] (.file "{}".toUTF8)).put ["diaglens.toml"]
    (.file "[compiler]\ncommand = [\"sh\", \"-c\", \"touch payments.ts\"]\n".toUTF8)

/-- Look after payments. -/
def generatingParameters : Parameters := { subsystems := ["payments"] }

/-- Whether the file that is written is a component of a project, and none was there before. -/
def generatesComponent (project : Project) : Bool :=
  let components (disk : Disk) : List String :=
    (scanComponents disk project.tree project.config.compiler project.subsystems).components.map
      ComponentHealth.path
  decide project.config.compiler.Textual && decide project.config.analysis.Textual &&
    !project.subsystems.isEmpty && ((project.collect generatingDisk).result .warnings).toBool &&
    (project.tree.files? generatingDisk).toBool &&
    decide (components (project.diskAfter generatingDisk) = ["payments.ts"]) &&
    decide (components generatingDisk = [])

/-- A project with a marker that is no text, which only suggestions look at. -/
def markedDisk : Disk :=
  recordedDisk.put ["diaglens.toml"]
    (.file "[compiler]\ninfrastructure_markers = [5]\n".toUTF8)

/-- Take the records from the file. -/
def markedParameters : Parameters := { diagnosticsFile := some ⟨0, ["d.json"]⟩ }

/-- The tags of a text, told apart from brackets behind a backslash. -/
def tagsFrom (escaped : Bool) : List Char → List (List Char)
  | [] => []
  | c :: rest =>
      if c = '[' && !escaped && Display.opensTag rest then
        rest.takeWhile (· ≠ ']') :: tagsFrom false rest
      else tagsFrom (c = '\\' && !escaped) rest

/-- Whether tags close only styles that are open, the last one first.  A tag that names no style
closes the last one. -/
def tagsMatch : List (List Char) → List (List Char) → Bool
  | _, [] => true
  | opened, ['/'] :: rest => !opened.isEmpty && tagsMatch (opened.drop 1) rest
  | opened, ('/' :: name) :: rest => opened.contains name && tagsMatch (opened.erase name) rest
  | opened, tag :: rest => tagsMatch (tag.takeWhile (· ≠ '=') :: opened) rest

/-- A host whose terminal refuses a line about the progress when its tags do not match. -/
def strictHost : Host where
  programs := .replaying
  shows
    | .progress content => tagsMatch ["progress.description".toList] (tagsFrom false content.toList)
    | _ => true

/-- A place whose path holds a tag that closes nothing. -/
def bracketedPlace : Place := ["work", "a[", "b]"]

/-- The project with a record, at that place. -/
def bracketedDisk : Disk :=
  (((Disk.empty.put ["work"] .directory).put ["work", "a["] .directory).put bracketedPlace
    .directory).put (bracketedPlace ++ ["d.json"]) (.file recordedText.toUTF8)

/-- What stands when the work is done is shown. -/
theorem show_strictHost {items : List Display.Item}
    (still : ∀ item ∈ items, ∀ content, item ≠ .progress content) :
    strictHost.show items = .ok () := by
  refine strictHost.show_eq_ok_iff.2 fun item member => ?_
  cases item with
  | progress content => exact absurd rfl (still _ member content)
  | text | panel | table => rfl

theorem show_strictHost_cardOf (metrics : QualityMetrics Float) (collection : CollectionReport) :
    strictHost.show (cardOf metrics collection) = .ok () :=
  show_strictHost (List.forall_mem_cons.2 ⟨nofun, List.forall_mem_singleton.2 nofun⟩)

theorem show_strictHost_thresholdLines (failUnder score : Float) :
    strictHost.show (thresholdLines failUnder score) = .ok () := by
  unfold thresholdLines
  split
  · rfl
  · exact show_strictHost (List.forall_mem_singleton.2 nofun)

/-- The quality command has an exit code there, whatever the path of the project. -/
theorem exists_exitCode_runQuality {project : Project} {parameters : Parameters} {disk : Disk}
    {directory : Place} {observedAt : String} {analysis : Analysis}
    (opened : openProject strictHost disk directory parameters = .ok project)
    (unexported : parameters.exportTo = none)
    (returned : (project.analyze disk none observedAt false).result attention = .ok analysis)
    (textual : ∀ subsystem ∈ project.subsystems, subsystem.Textual)
    (shown : ∀ subsystem ∈ project.subsystems, subsystem.recommendation.checkShown = .ok ())
    (later : String) :
    ∃ code, (Response.ofRun disk ((runQuality strictHost parameters disk directory later).perform
      attention)).map Response.exitCode = .ok code := by
  have card : Display.checkCard analysis.quality.metrics = .ok () := by
    rw [Project.metrics_of_analyze returned]
    exact checkCard_measureQuality _ textual shown _ _
  have passed := passed_runQuality opened unexported returned later
  rw [card, show_strictHost_cardOf, show_strictHost_thresholdLines] at passed
  rw [exitCode_ofRun]
  exact ⟨_, congrArg exitCodeOf passed⟩

/-- Single commands need not agree with the analysis: a scan of the components does not see what
the compiler would write, a measurement does not fail where a suggestion does, and where the path of
a project cannot be shown only the analysis ends there. -/
theorem commands_need_not_agree_with_analysis :
    (∃ project collection analysis scan other,
      openProject .plain generatingDisk [] generatingParameters = .ok project ∧
        project.subsystems ≠ [] ∧
        (project.collect generatingDisk).result .warnings = .ok collection ∧
        (project.analyze generatingDisk none "" true).result .warnings = .ok analysis ∧
        analysis.quality.components = some scan ∧
        scan.components.map ComponentHealth.path = ["payments.ts"] ∧
        (project.componentsAlone generatingDisk).result .warnings = .ok other ∧
        other.components.map ComponentHealth.path = []) ∧
    (∃ project collection answer failure,
      openProject .plain markedDisk [] markedParameters = .ok project ∧
        (project.collect markedDisk).result .warnings = .ok collection ∧
        (project.qualityAlone markedDisk "").result .warnings = .ok answer ∧
        (project.analyze markedDisk none "" false).result .warnings = .error failure) ∧
    ∃ project collection analysis code,
      openProject strictHost bracketedDisk bracketedPlace markedParameters = .ok project ∧
        (project.collect bracketedDisk).result .warnings = .ok collection ∧
        (project.analyze bracketedDisk none "" false).result .warnings = .ok analysis ∧
        (Response.ofRun bracketedDisk ((runAnalyze strictHost markedParameters bracketedDisk
          bracketedPlace "").perform .warnings)).map Response.exitCode = .error .unshown ∧
        (Response.ofRun bracketedDisk ((runQuality strictHost markedParameters bracketedDisk
          bracketedPlace "").perform .warnings)).map Response.exitCode = .ok code := by
  refine ⟨?_, ?_, ?_⟩
  · have checked : (openProject .plain generatingDisk [] generatingParameters).toOption.any
        generatesComponent = true := by decide +kernel
    obtain ⟨project, opened, checked⟩ := exists_of_any_toOption checked
    simp only [generatesComponent, Bool.and_eq_true, decide_eq_true_eq, Bool.not_eq_true',
      List.isEmpty_eq_false_iff] at checked
    obtain ⟨⟨⟨⟨⟨⟨profileTextual, optionsTextual⟩, designated⟩, completed⟩, listed⟩, written⟩,
      none⟩ := checked
    obtain ⟨collection, collected⟩ := decided_iff_toBool.2 completed
    obtain ⟨analysis, returned, _, components⟩ := Project.exists_result_analyze_of_textual
      (isRead_of_openProject opened) profileTextual optionsTextual collected
    have scanned : (project.componentsAlone generatingDisk).result .warnings = .ok _ :=
      (returns_reportComponents_of_textual profileTextual optionsTextual
        (decided_iff_toBool.2 listed)).result_eq
    exact ⟨project, collection, analysis, _, _, opened, designated, collected, returned,
      components, written, scanned, none⟩
  · have checked : (openProject .plain markedDisk [] markedParameters).toOption.any
        (fun project =>
          ((project.collect markedDisk).result .warnings).toBool &&
            ((project.qualityAlone markedDisk "").result .warnings).toBool &&
            !((project.analyze markedDisk none "" false).result .warnings).toBool) = true := by
      decide +kernel
    obtain ⟨project, opened, checked⟩ := exists_of_any_toOption checked
    simp only [Bool.and_eq_true, Bool.not_eq_true'] at checked
    obtain ⟨⟨completed, measured⟩, failed⟩ := checked
    obtain ⟨collection, collected⟩ := decided_iff_toBool.2 completed
    obtain ⟨answer, measured⟩ := decided_iff_toBool.2 measured
    obtain ⟨failure, failed⟩ := exists_error_of_toBool_eq_false failed
    exact ⟨project, collection, answer, failure, opened, collected, measured, failed⟩
  · have checked : (openProject strictHost bracketedDisk bracketedPlace
        markedParameters).toOption.any (fun project =>
          decide project.config.compiler.Textual && project.subsystems.isEmpty &&
            ((project.collect bracketedDisk).result .warnings).toBool &&
            !strictHost.shows (progressLine project.tree.root)) = true := by
      decide +kernel
    obtain ⟨project, opened, checked⟩ := exists_of_any_toOption checked
    simp only [Bool.and_eq_true, decide_eq_true_eq, Bool.not_eq_true', List.isEmpty_iff] at checked
    obtain ⟨⟨⟨profileTextual, undesignated⟩, completed⟩, unshown⟩ := checked
    obtain ⟨collection, collected⟩ := decided_iff_toBool.2 completed
    have textual : ∀ subsystem ∈ project.subsystems, subsystem.Textual := by
      rw [undesignated]
      nofun
    obtain ⟨analysis, returned, _⟩ := Project.exists_result_analyze_of_textual
      (isRead_of_openProject opened) profileTextual textual collected
    obtain ⟨code, answered⟩ := exists_exitCode_runQuality opened rfl returned textual
      (by rw [undesignated]; nofun) ""
    have ended : Response.ofRun bracketedDisk ((runAnalyze strictHost markedParameters
        bracketedDisk bracketedPlace "").perform .warnings) = .error .unshown :=
      ofRun_of_silent bracketedDisk (result_runAnalyze_of_unbegun opened unshown) rfl
    exact ⟨project, collection, analysis, code, opened, collected, returned,
      congrArg (Except.map Response.exitCode) ended, answered⟩

end CommandLine

end Triage
