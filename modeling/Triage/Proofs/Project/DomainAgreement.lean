import Mathlib.Tactic.TFAE
import Triage.Proofs.Fix.Coverage
import Triage.Proofs.Fix.Impact
import Triage.Proofs.Pattern.Gathering
import Triage.Proofs.Project.Analysis

/-!
# Diagnostics of the domain

Five stages ask on their own whether a diagnostic concerns a designated subsystem: the
classification, the suggested fix, its impact, the gathering pattern, and the counts of the
subsystems.  In an analysis they never contradict each other
(`analyze_agrees_on_the_domain`): all of them look at the file that the diagnostic shows, and
so at what it was classified by (`DomainVerdicts`).  Hence the gathering pattern, the plan of
the subsystems and the count of the category are equally large (`DomainAgreement`).
-/

namespace Triage

set_option autoImplicit false

variable {Number : Type}

/-- What the stages say of a diagnostic among others. -/
structure DomainVerdicts (profile : Profile) (subsystems : List (Subsystem Number))
    (diagnostics : List Diagnostic) (diagnostic : Diagnostic) : Prop where
  /-- The category, the subsystems, the suggestion, its impact and the gathering pattern agree. -/
  agree : List.TFAE
    [diagnostic.category = .domain,
      ∃ subsystem ∈ subsystems,
        subsystem.concernedBy diagnostic.message diagnostic.file = true,
      (suggestFix profile subsystems diagnostic).subsystem.isSome = true,
      (suggestFix profile subsystems diagnostic).impact.level = .moderate ∨
        (suggestFix profile subsystems diagnostic).impact.level = .significant,
      diagnostic ∈ diagnostics.filter (concernsAny subsystems)]
  /-- The suggestion names the first subsystem that is concerned. -/
  named : ∀ name, (suggestFix profile subsystems diagnostic).subsystem = some name →
    ∃ first, implicatedSubsystem subsystems diagnostic = some first ∧ first.name = .text name

/-- The pattern, the plan and the count of the domain are equally large. -/
structure DomainAgreement (subsystems : List (Subsystem Number)) (diagnostics : List Diagnostic)
    (patterns : PatternReport) (fixes : FixReport) : Prop where
  pattern : (patterns.patterns.filter
      fun pattern => pattern.identifier = gatheringIdentifier).map ErrorPattern.frequency =
    if diagnostics.countP (concernsAny subsystems) = 0 then []
    else [(diagnostics.countP (concernsAny subsystems) : Int)]
  plan : (fixes.plans.filter fun plan => plan.identifier = domainPlanIdentifier).map
      (fun plan => plan.fixes.length) =
    if diagnostics.countP (concernsAny subsystems) = 0 then []
    else [diagnostics.countP (concernsAny subsystems)]
  category : fixes.byCategory.lookup "domain" = some (diagnostics.countP (concernsAny subsystems))
  /-- No suggestion, in a plan or not, has a minimal impact. -/
  suggested : ∀ suggestion ∈ fixes.suggestions, suggestion.impact.level ≠ .minimal
  planned : ∀ plan ∈ fixes.plans, ∀ suggestion ∈ plan.fixes, suggestion.impact.level ≠ .minimal
  above : ∀ subsystem ∈ subsystems,
    concernCount subsystem diagnostics ≤ diagnostics.countP (concernsAny subsystems)
  below : diagnostics.countP (concernsAny subsystems) ≤
    (subsystems.map fun subsystem => concernCount subsystem diagnostics).sum

/-- A subsystem is implicated when one is concerned. -/
theorem isSome_implicatedSubsystem_iff {subsystems : List (Subsystem Number)}
    {diagnostic : Diagnostic} :
    (implicatedSubsystem subsystems diagnostic).isSome = true ↔
      ∃ subsystem ∈ subsystems,
        subsystem.concernedBy diagnostic.message diagnostic.file = true :=
  List.find?_isSome

/-- A suggestion is made only when the names of the subsystems are texts. -/
theorem isText_name_of_checkSuggestion {profile : Profile} {subsystems : List (Subsystem Number)}
    {diagnostic : Diagnostic} (checked : checkSuggestion profile subsystems diagnostic = .ok ())
    {subsystem : Subsystem Number} (member : subsystem ∈ subsystems) :
    subsystem.name.IsText := by
  obtain ⟨_, _, _, impact⟩ := checkSuggestion_eq_ok_iff.1 checked
  obtain ⟨_, _, named⟩ := bind_eq_ok.1 impact
  obtain ⟨content, found, _⟩ := bind_eq_ok.1 (forM_eq_ok_iff.1 named subsystem member)
  cases written : subsystem.name with
  | text content => exact Value.isText_text content
  | _ => rw [written] at found; cases found

/-- The verdicts agree on a diagnostic whose category tells whether a subsystem is concerned. -/
theorem domainVerdicts_of_iff {profile : Profile} {subsystems : List (Subsystem Number)}
    {diagnostics : List Diagnostic} {diagnostic : Diagnostic} (member : diagnostic ∈ diagnostics)
    (told : diagnostic.category = .domain ↔ ∃ subsystem ∈ subsystems,
      subsystem.concernedBy diagnostic.message diagnostic.file = true)
    (checked : checkSuggestion profile subsystems diagnostic = .ok ()) :
    DomainVerdicts profile subsystems diagnostics diagnostic := by
  refine ⟨?_, fun name suggested => ?_⟩
  · tfae_have 1 ↔ 2 := told
    tfae_have 1 ↔ 3 := by
      rw [subsystem_suggestFix]
      split
      · next domain =>
          rw [Option.isSome_map]
          exact iff_of_true domain (isSome_implicatedSubsystem_iff.2 (told.1 domain))
      · next other => exact iff_of_false other (by simp)
    tfae_have 4 ↔ 2 := impactLevel_concerned_iff subsystems diagnostic
    tfae_have 5 ↔ 2 := by
      rw [List.mem_filter, ← concernsAny_iff]
      exact and_iff_right member
    tfae_finish
  · rw [subsystem_suggestFix] at suggested
    split at suggested
    · obtain ⟨first, implicated, rfl⟩ := Option.map_eq_some_iff.1 suggested
      have among := List.mem_of_find?_eq_some implicated
      obtain ⟨content, named⟩ := isText_name_of_checkSuggestion checked among
      exact ⟨first, implicated, by rw [Subsystem.title, named]; rfl⟩
    · cases suggested

/-- The reports agree on diagnostics whose categories tell whether a subsystem is concerned. -/
theorem domainAgreement_of_iff {profile : Profile} {subsystems : List (Subsystem Number)}
    {observedAt : String} {diagnostics : List Diagnostic}
    (told : ∀ diagnostic ∈ diagnostics, diagnostic.category = .domain ↔
      ∃ subsystem ∈ subsystems,
        subsystem.concernedBy diagnostic.message diagnostic.file = true) :
    DomainAgreement subsystems diagnostics (recognizePatterns subsystems observedAt diagnostics)
      (recommendFixes profile subsystems observedAt diagnostics) := by
  have counted : diagnostics.countP (fun diagnostic => diagnostic.category = .domain) =
      diagnostics.countP (concernsAny subsystems) := by
    refine List.countP_congr fun diagnostic member => ?_
    rw [decide_eq_true_eq, concernsAny_iff]
    exact told diagnostic member
  have spared : ∀ suggestion ∈ diagnostics.map (suggestFix profile subsystems),
      suggestion.impact.level ≠ .minimal := by
    intro suggestion member minimal
    obtain ⟨diagnostic, among, rfl⟩ := List.mem_map.1 member
    obtain ⟨domain, unconcerned⟩ := domain_of_impactLevel_eq_minimal minimal
    exact unconcerned ((told diagnostic among).1 domain)
  have sorted : (recommendFixes profile subsystems observedAt diagnostics).suggestions.Perm
      (diagnostics.map (suggestFix profile subsystems)) := List.mergeSort_perm _ _
  refine ⟨?_, ?_, ?_, fun suggestion member => spared suggestion (sorted.mem_iff.1 member),
    fun plan planned suggestion member =>
      spared suggestion (mem_suggestions_of_mem_batchPlans planned member),
    fun subsystem member => concernCount_le member diagnostics,
    countP_concernsAny_le_sum subsystems diagnostics⟩
  · exact (congrArg _ (filter_identifier_findPatterns subsystems diagnostics)).trans
      (frequencies_gatheringPattern subsystems diagnostics)
  · rw [← counted, ← countP_category_suggestions profile subsystems]
    exact lengths_domainPlans subsystems _
  · rw [← counted, ← countP_category_suggestions profile subsystems, ← sorted.countP_eq]
    rfl

/-- **The stages of an analysis agree on the domain.** Every diagnostic that an analysis
returns is of the domain for all of its stages or for none, and the pattern, the plan and the
count of the domain are equally large. -/
theorem analyze_agrees_on_the_domain (project : Project) (disk : Disk) (previous : Option Float)
    (observedAt : String) (withComponents : Bool) (attention : Attention) (analysis : Analysis)
    (returned : ((project.analyze disk previous observedAt withComponents).perform attention).1 =
      .ok analysis) :
    analysis.fixes.suggestions.Perm (analysis.collection.diagnostics.map
        (suggestFix project.config.compiler project.subsystems)) ∧
      (∀ diagnostic ∈ analysis.collection.diagnostics,
        DomainVerdicts project.config.compiler project.subsystems analysis.collection.diagnostics
          diagnostic) ∧
      DomainAgreement project.subsystems analysis.collection.diagnostics analysis.patterns
        analysis.fixes := by
  rw [Run.perform_fst] at returned
  obtain ⟨_, recognized, recommended, checked⟩ := reports_of_analyze returned
  have told : ∀ diagnostic ∈ analysis.collection.diagnostics,
      diagnostic.category = .domain ↔ ∃ subsystem ∈ project.subsystems,
        subsystem.concernedBy diagnostic.message diagnostic.file = true :=
    fun _ member => category_eq_domain_iff_of_analyze returned member
  rw [recognized, recommended]
  exact ⟨List.mergeSort_perm _ _, fun diagnostic member =>
    domainVerdicts_of_iff member (told diagnostic member) (checked diagnostic member),
    domainAgreement_of_iff told⟩

/-- A project with a subsystem, and two records of which the first concerns it. -/
def sampleProject : Project :=
  let payments : Subsystem Float :=
    { name := .text "payments", keywords := [.text "Payment"], globs := [], tier := .secondary
      healthThreshold := 90, criticalThreshold := 5, recommendation := .null
      validationSteps := [] }
  let record (message file : String) : RawDiagnostic :=
    { message := .text message, severity := .text "error", file := .text file
      line := .int 1, column := .int 2, code := .int 2304 }
  .openAt [] { Config.standard with analysis := { subsystems := [payments] } }
    (.records [record "Payment is missing" "a.ts", record "m" "b.ts"])

theorem analyze_sampleProject_agrees : ∃ analysis,
    ((sampleProject.analyze .empty none "" false).perform .nothing).1 = .ok analysis ∧
      (analysis.patterns.patterns.filter
        fun pattern => pattern.identifier = gatheringIdentifier).map ErrorPattern.frequency = [1] ∧
      (analysis.fixes.plans.filter fun plan => plan.identifier = domainPlanIdentifier).map
        (fun plan => plan.fixes.length) = [1] := by
  have counted : (match ((sampleProject.analyze .empty none "" false).perform .nothing).1 with
      | .ok analysis => analysis.collection.diagnostics.countP
          (concernsAny sampleProject.subsystems)
      | .error _ => 0) = 1 := by decide +kernel
  cases returned : ((sampleProject.analyze .empty none "" false).perform .nothing).1 with
  | error failure =>
      rw [returned] at counted
      cases counted
  | ok analysis =>
      rw [returned] at counted
      obtain ⟨_, _, agreement⟩ := analyze_agrees_on_the_domain _ _ _ _ _ _ analysis returned
      have pattern := agreement.pattern
      have plan := agreement.plan
      simp only at counted
      rw [counted] at pattern plan
      exact ⟨analysis, rfl, pattern, plan⟩

end Triage
