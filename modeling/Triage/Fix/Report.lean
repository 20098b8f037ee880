import Triage.Fix.Batch
import Triage.Journal

/-!
# The report of suggested fixes

One suggestion for every diagnostic, and the plans that gather them.
-/

namespace Triage

set_option autoImplicit false

variable {Number : Type}

/-- Suggestions by priority, and plans. -/
structure FixReport where
  suggestions : List FixSuggestion
  plans : List BatchFixPlan
  observedAt : String
deriving Inhabited

namespace FixReport

/-- The number of suggestions of a priority. -/
def countPriority (report : FixReport) (priority : Level) : Nat :=
  report.suggestions.countP fun suggestion => suggestion.priority = priority

/-- The number of suggestions of a category. -/
def countCategory (report : FixReport) (category : Category) : Nat :=
  report.suggestions.countP fun suggestion => suggestion.category = category

/-- The number of suggestions of each priority. -/
def byPriority (report : FixReport) : List (String × Nat) :=
  [Level.high, .medium, .low].map fun level => (level.word, report.countPriority level)

/-- The number of suggestions of each category. -/
def byCategory (report : FixReport) : List (String × Nat) :=
  Category.all.map fun category => (category.word, report.countCategory category)

/-- The body of the report. -/
def toValue (report : FixReport) : Value :=
  let counts (entries : List (String × Nat)) : Value :=
    .table (entries.map fun entry => (entry.1, countValue entry.2))
  .table
    [("summary", .table
      [("total_suggestions", countValue report.suggestions.length),
        ("by_priority", counts report.byPriority),
        ("by_category", counts report.byCategory),
        ("batch_plans", countValue report.plans.length)]),
      ("suggestions", .list (report.suggestions.map FixSuggestion.toValue)),
      ("batch_plans", .list (report.plans.map BatchFixPlan.toValue))]

end FixReport

/-- The fix report of a list of diagnostics. -/
def recommendFixes (profile : Profile) (subsystems : List (Subsystem Number))
    (observedAt : String) (diagnostics : List Diagnostic) : FixReport :=
  let suggestions := diagnostics.map (suggestFix profile subsystems)
  { suggestions := sortByPriority suggestions
    plans := batchPlans subsystems suggestions
    observedAt }

/-- Make the fix report and note it. -/
def reportFixes (profile : Profile) (subsystems : List (Subsystem Number)) (observedAt : String)
    (diagnostics : List Diagnostic) : Run FixReport := do
  (diagnostics.forM (checkSuggestion profile subsystems) : Except Failure Unit)
  let report := recommendFixes profile subsystems observedAt diagnostics
  Run.info ("Generated " ++ toString report.suggestions.length ++ " suggestions and " ++
    toString report.plans.length ++ " batch plans")
  return report

end Triage
