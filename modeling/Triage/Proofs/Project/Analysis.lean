import Triage.Project
import Triage.Proofs.Collection.Collecting

/-!
# What an analysis returns

An analysis that returns has handed one list of diagnostics to all of its stages: its
patterns and its fixes are the plain reports of the diagnostics that it returns, and every
one of them passed the checks of a suggestion (`reports_of_analyze`).
-/

namespace Triage

set_option autoImplicit false

variable {Number : Type} {attention : Attention} {notes : List Note}

/-- A pattern report that is returned is the plain one. -/
theorem patterns_of_reportPatterns {subsystems : List (Subsystem Number)} {observedAt : String}
    {diagnostics : List Diagnostic} {report : PatternReport}
    (returned : ((reportPatterns subsystems observedAt diagnostics).outcome attention notes).1 =
      .ok report) :
    report = recognizePatterns subsystems observedAt diagnostics := by
  obtain ⟨_, noted, _, further⟩ := Run.ok_of_lift_bind returned
  obtain ⟨_, noted, _, further⟩ := Run.ok_of_lift_bind further
  obtain ⟨_, noted, _, further⟩ := Run.ok_of_bind further
  exact (Run.ok_of_pure further).symm

/-- A fix report that is returned is the plain one, and a suggestion could be made for each of
the diagnostics. -/
theorem fixes_of_reportFixes {profile : Profile} {subsystems : List (Subsystem Number)}
    {observedAt : String} {diagnostics : List Diagnostic} {report : FixReport}
    (returned : ((reportFixes profile subsystems observedAt diagnostics).outcome attention
      notes).1 = .ok report) :
    report = recommendFixes profile subsystems observedAt diagnostics ∧
      ∀ diagnostic ∈ diagnostics, checkSuggestion profile subsystems diagnostic = .ok () := by
  obtain ⟨_, noted, checked, further⟩ := Run.ok_of_lift_bind returned
  obtain ⟨_, noted, _, further⟩ := Run.ok_of_bind further
  exact ⟨(Run.ok_of_pure further).symm, forM_eq_ok_iff.1 checked⟩

/-- **The stages of an analysis look at the same diagnostics.** -/
theorem reports_of_analyze {project : Project} {disk : Disk} {previous : Option Float}
    {observedAt : String} {withComponents : Bool} {analysis : Analysis}
    (returned : ((project.analyze disk previous observedAt withComponents).outcome attention
      notes).1 = .ok analysis) :
    ((project.collect disk).outcome attention notes).1 = .ok analysis.collection ∧
      analysis.patterns = recognizePatterns project.subsystems observedAt
        analysis.collection.diagnostics ∧
      analysis.fixes = recommendFixes project.config.compiler project.subsystems observedAt
        analysis.collection.diagnostics ∧
      ∀ diagnostic ∈ analysis.collection.diagnostics,
        checkSuggestion project.config.compiler project.subsystems diagnostic = .ok () := by
  obtain ⟨collection, noted, collected, further⟩ := Run.ok_of_bind returned
  obtain ⟨patterns, noted, recognized, further⟩ := Run.ok_of_bind further
  obtain ⟨fixes, noted, recommended, further⟩ := Run.ok_of_bind further
  obtain ⟨quality, noted, _, further⟩ := Run.ok_of_bind further
  obtain ⟨_, noted, _, further⟩ := Run.ok_of_bind further
  obtain ⟨fixed, checked⟩ := fixes_of_reportFixes recommended
  rw [← Run.ok_of_pure further]
  exact ⟨collected, patterns_of_reportPatterns recognized, fixed, checked⟩

/-- The category of a diagnostic that an analysis returns tells whether it concerns a subsystem. -/
theorem category_eq_domain_iff_of_analyze {project : Project} {disk : Disk}
    {previous : Option Float} {observedAt : String} {withComponents : Bool} {analysis : Analysis}
    (returned : ((project.analyze disk previous observedAt withComponents).outcome attention
      notes).1 = .ok analysis) {diagnostic : Diagnostic}
    (member : diagnostic ∈ analysis.collection.diagnostics) :
    diagnostic.category = .domain ↔ ∃ subsystem ∈ project.subsystems,
      subsystem.concernedBy diagnostic.message diagnostic.file = true := by
  obtain ⟨_, _, reported⟩ := collectRecords_of_collect (reports_of_analyze returned).1
  exact classify_eq_domain_iff (classify_of_mem_collectRecords reported member)

end Triage
