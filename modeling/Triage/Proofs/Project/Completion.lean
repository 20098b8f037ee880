import Triage.Proofs.Collection.Reading
import Triage.Proofs.Fix.Coverage
import Triage.Proofs.Pattern.Recurrence
import Triage.Proofs.Project.Analysis
import Triage.Proofs.Quality.Reporting

/-!
# When an analysis completes

The stages of an analysis can fail, but only where a setting or a record is no text, and what a
collection returns of records that were read is textual.

Stages settle: what they come to does not depend on what was noted before.  So the result of an
analysis is that of its stages one after the other (`result_analyze`), and with textual settings
an analysis completes whenever its collection does (`exists_result_analyze_of_textual`).
-/

namespace Triage

set_option autoImplicit false

variable {Number : Type} {attention : Attention}

/-! ## The stages -/

section Stages

variable {profile : Profile} {subsystems : List (Subsystem Number)} {diagnostics : List Diagnostic}

theorem settles_reportPatterns (subsystems : List (Subsystem Number)) (observedAt : String)
    (diagnostics : List Diagnostic) :
    (reportPatterns subsystems observedAt diagnostics).Settles attention :=
  (Run.settles_lift _).bind fun _ => (Run.settles_lift _).bind fun _ =>
    (Run.settles_note .info _).bind fun _ => Run.settles_pure _

/-- The result of a pattern report: checks, and the plain report. -/
theorem result_reportPatterns (subsystems : List (Subsystem Number)) (observedAt : String)
    (diagnostics : List Diagnostic) :
    (reportPatterns subsystems observedAt diagnostics).result attention = (do
      checkPatterns subsystems diagnostics
      checkCounts subsystems diagnostics
      return recognizePatterns subsystems observedAt diagnostics) := by
  refine Run.result_bind fun _ => Run.returns_bind (Run.returns_lift _) fun _ => ?_
  exact (Run.returns_note .info _).bind (Run.returns_pure _)

/-- A pattern report is returned exactly when its checks are passed, and then it is the plain
one. -/
theorem result_reportPatterns_eq_ok_iff {observedAt : String} {report : PatternReport} :
    (reportPatterns subsystems observedAt diagnostics).result attention = .ok report ↔
      checkPatterns subsystems diagnostics = .ok () ∧ checkCounts subsystems diagnostics = .ok () ∧
        recognizePatterns subsystems observedAt diagnostics = report := by
  rw [result_reportPatterns]
  constructor
  · intro returned
    obtain ⟨_, recurring, further⟩ := bind_eq_ok.1 returned
    obtain ⟨_, counted, further⟩ := bind_eq_ok.1 further
    exact ⟨recurring, counted, Except.ok.inj further⟩
  · rintro ⟨recurring, counted, rfl⟩
    exact bind_eq_ok.2 ⟨(), recurring, bind_eq_ok.2 ⟨(), counted, rfl⟩⟩

end Stages

/-- A quality report is returned exactly when its metrics are and, if they are wanted, its
components. -/
theorem result_reportQuality_eq_ok_iff {disk : Disk} {scope : QualityScope Float}
    {observedAt : String} {diagnostics : List Diagnostic} {patterns : List ErrorPattern}
    {withComponents : Bool} {report : QualityReport Float} :
    (reportQuality disk scope observedAt diagnostics patterns withComponents).result attention =
        .ok report ↔
      (reportMetrics disk scope diagnostics patterns).result attention = .ok report.metrics ∧
        (if withComponents then ∃ scan, report.components = some scan ∧
          (reportComponents disk scope.tree scope.profile scope.subsystems).result attention =
            .ok scan
        else report.components = none) ∧
        observedAt = report.observedAt := by
  rw [result_reportQuality]
  constructor
  · intro returned
    obtain ⟨metrics, measured, further⟩ := bind_eq_ok.1 returned
    cases withComponents with
    | false =>
        obtain rfl := Except.ok.inj further
        exact ⟨measured, rfl, rfl⟩
    | true =>
        obtain ⟨scan, scanned, further⟩ := bind_eq_ok.1 further
        obtain rfl := Except.ok.inj further
        exact ⟨measured, ⟨scan, rfl, scanned⟩, rfl⟩
  · obtain ⟨metrics, components, _⟩ := report
    rintro ⟨measured, wanted, rfl⟩
    refine bind_eq_ok.2 ⟨metrics, measured, ?_⟩
    cases withComponents with
    | false =>
        obtain rfl : components = none := wanted
        rfl
    | true =>
        obtain ⟨scan, rfl, scanned⟩ := wanted
        exact bind_eq_ok.2 ⟨scan, scanned, rfl⟩

namespace Project

variable {project : Project} {disk : Disk} {previous : Option Float} {observedAt : String}
  {withComponents : Bool}

/-- The result of an analysis is that of its stages, one after the other. -/
theorem result_analyze (project : Project) (disk : Disk) (previous : Option Float)
    (observedAt : String) (withComponents : Bool) :
    (project.analyze disk previous observedAt withComponents).result attention = (do
      let collection ← (project.collect disk).result attention
      let diagnostics := collection.diagnostics
      let patterns ← (reportPatterns project.subsystems observedAt diagnostics).result attention
      let fixes ← (reportFixes project.config.compiler project.subsystems observedAt
        diagnostics).result attention
      let quality ← (reportQuality (project.diskAfter disk) (project.qualityScope previous)
        observedAt diagnostics patterns.patterns withComponents).result attention
      return { collection, patterns, fixes, quality, observedAt }) := by
  refine Run.result_bind fun collection => ?_
  refine Run.returns_bind (settles_reportPatterns _ _ _) fun patterns => ?_
  refine Run.returns_bind (settles_reportFixes _ _ _ _) fun fixes => ?_
  refine Run.returns_bind (settles_reportQuality _ _ _ _ _ _) fun quality => ?_
  exact (Run.returns_note .info _).bind (Run.returns_pure _)

/-- **An analysis is returned exactly when each of its stages returns its part.** -/
theorem result_analyze_eq_ok_iff {analysis : Analysis} :
    (project.analyze disk previous observedAt withComponents).result attention = .ok analysis ↔
      (project.collect disk).result attention = .ok analysis.collection ∧
        (reportPatterns project.subsystems observedAt
          analysis.collection.diagnostics).result attention = .ok analysis.patterns ∧
        (reportFixes project.config.compiler project.subsystems observedAt
          analysis.collection.diagnostics).result attention = .ok analysis.fixes ∧
        (reportQuality (project.diskAfter disk) (project.qualityScope previous) observedAt
          analysis.collection.diagnostics analysis.patterns.patterns withComponents).result
            attention = .ok analysis.quality ∧
        observedAt = analysis.observedAt := by
  rw [result_analyze]
  constructor
  · intro returned
    obtain ⟨collection, collected, further⟩ := bind_eq_ok.1 returned
    obtain ⟨patterns, recognized, further⟩ := bind_eq_ok.1 further
    obtain ⟨fixes, recommended, further⟩ := bind_eq_ok.1 further
    obtain ⟨quality, measured, further⟩ := bind_eq_ok.1 further
    obtain rfl := Except.ok.inj further
    exact ⟨collected, recognized, recommended, measured, rfl⟩
  · rintro ⟨collected, recognized, recommended, measured, rfl⟩
    exact bind_eq_ok.2 ⟨_, collected, bind_eq_ok.2 ⟨_, recognized, bind_eq_ok.2 ⟨_, recommended,
      bind_eq_ok.2 ⟨_, measured, rfl⟩⟩⟩⟩

/-- The metrics of an analysis are those of the diagnostics and the patterns that it returns. -/
theorem metrics_of_analyze {analysis : Analysis}
    (returned : (project.analyze disk previous observedAt withComponents).result attention =
      .ok analysis) :
    analysis.quality.metrics = measureQuality (project.diskAfter disk)
      (project.qualityScope previous) analysis.collection.diagnostics
        analysis.patterns.patterns := by
  obtain ⟨_, _, _, measured, _⟩ := result_analyze_eq_ok_iff.1 returned
  exact metrics_of_reportMetrics (result_reportQuality_eq_ok_iff.1 measured).1

/-- **With textual settings an analysis completes** when its collection does, and has the
components that are there if they are wanted. -/
theorem exists_result_analyze_of_textual (isRead : project.source.IsRead)
    (profileTextual : project.config.compiler.Textual)
    (optionsTextual : project.config.analysis.Textual) {collection : CollectionReport}
    (collected : (project.collect disk).result attention = .ok collection) :
    ∃ analysis,
      (project.analyze disk previous observedAt withComponents).result attention =
          .ok analysis ∧
        analysis.collection = collection ∧
        analysis.quality.components = if withComponents then
          some (scanComponents (project.diskAfter disk) project.tree project.config.compiler
            project.subsystems) else none := by
  have textual := textual_of_collect isRead collected
  have listed := decided_files?_of_collect collected
  have recognized : (reportPatterns project.subsystems observedAt
      collection.diagnostics).result attention = .ok (recognizePatterns project.subsystems
        observedAt collection.diagnostics) :=
    result_reportPatterns_eq_ok_iff.2 ⟨checkPatterns_of_textual optionsTextual textual,
      checkCounts_of_textual optionsTextual textual, rfl⟩
  have recommended : (reportFixes project.config.compiler project.subsystems observedAt
      collection.diagnostics).result attention = .ok (recommendFixes project.config.compiler
        project.subsystems observedAt collection.diagnostics) :=
    result_reportFixes_eq_ok_iff.2 ⟨forM_eq_ok_iff.2 fun diagnostic member =>
      checkSuggestion_of_textual profileTextual optionsTextual (textual diagnostic member), rfl⟩
  have metrics : (reportMetrics (project.diskAfter disk) (project.qualityScope previous)
      collection.diagnostics (findPatterns project.subsystems
        collection.diagnostics)).Returns attention (.ok (measureQuality (project.diskAfter disk)
          (project.qualityScope previous) collection.diagnostics
            (findPatterns project.subsystems collection.diagnostics))) :=
    returns_reportMetrics_of_textual (project.qualityScope previous) profileTextual optionsTextual
      listed textual _
  have measured : (reportQuality (project.diskAfter disk) (project.qualityScope previous)
      observedAt collection.diagnostics (recognizePatterns project.subsystems observedAt
        collection.diagnostics).patterns withComponents).result attention = .ok
      ⟨measureQuality (project.diskAfter disk) (project.qualityScope previous)
          collection.diagnostics (findPatterns project.subsystems collection.diagnostics),
        if withComponents then
          some (scanComponents (project.diskAfter disk) project.tree project.config.compiler
            project.subsystems) else none, observedAt⟩ := by
    refine result_reportQuality_eq_ok_iff.2 ⟨metrics.result_eq, ?_, rfl⟩
    cases withComponents with
    | false => rfl
    | true => exact ⟨_, rfl,
        (returns_reportComponents_of_textual profileTextual optionsTextual listed).result_eq⟩
  exact ⟨⟨collection, _, _, _, observedAt⟩,
    result_analyze_eq_ok_iff.2 ⟨collected, recognized, recommended, measured, rfl⟩, rfl, rfl⟩

end Project

end Triage
