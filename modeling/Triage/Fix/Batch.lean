import Triage.Fix.Suggestion

/-!
# Plans for many fixes

Suggestions of one category are gathered into a plan when there are at least three of
them, and the suggestions for designated subsystems into a plan of their own, in which
the subsystems of the first tier come first.  A plan is risky when more than three in
ten of its fixes are, and of medium risk when more than half of them are.
-/

namespace Triage

set_option autoImplicit false

variable {Number : Type}

/-- An ordered group of suggestions. -/
structure BatchFixPlan where
  identifier : String
  title : String
  description : String
  fixes : List FixSuggestion
  /-- The identifiers of the fixes, in the order in which they are to be made. -/
  executionOrder : List String
  estimatedMinutes : Nat
  risk : Level
  subsystemProtection : List String
  validationCheckpoints : List String
deriving Inhabited

/-- The record of a plan in a report. -/
def BatchFixPlan.toValue (plan : BatchFixPlan) : Value :=
  .table
    [("plan_id", .text plan.identifier), ("title", .text plan.title),
      ("description", .text plan.description),
      ("fixes", textList (plan.fixes.map FixSuggestion.identifier)),
      ("execution_order", textList plan.executionOrder),
      ("estimated_time_minutes", countValue plan.estimatedMinutes),
      ("overall_risk", .text plan.risk.word),
      ("subsystem_protection", textList plan.subsystemProtection),
      ("validation_checkpoints", textList plan.validationCheckpoints)]

/-- The fewest suggestions that make a plan. -/
def minimumBatch : Nat := 3

/-- The minutes that a fix takes. -/
def minutesPerFix : Nat := 10

/-- The minutes that a fix of a subsystem takes. -/
def minutesPerDomainFix : Nat := 15

/-- The identifier of the plan for the subsystems. -/
def domainPlanIdentifier : String := "batch_domain_subsystems"

/-- The risk of a batch of fixes with these risks. -/
def batchRisk (risks : List Level) : Level :=
  if 3 * risks.length < 10 * risks.count .high then .high
  else if risks.length < 2 * risks.count .medium then .medium
  else .low

/-- The suggestions by category, in the order in which the categories first occur. -/
def groupByCategory (suggestions : List FixSuggestion) :
    OrderedMap Category (List FixSuggestion) :=
  suggestions.foldl
    (fun groups suggestion =>
      groups.insert suggestion.category
        ((groups.find? suggestion.category).getD [] ++ [suggestion]))
    .empty

/-- A word with a capital at its start. -/
def capitalized (word : String) : String :=
  match word.toList with
  | [] => ""
  | first :: rest => String.ofList (Text.upperAscii first :: rest)

/-- The plan for the suggestions of a category. -/
def categoryPlan (category : Category) (fixes : List FixSuggestion) : BatchFixPlan :=
  let label := category.word
  { identifier := "batch_" ++ label
    title := "Batch Fix for " ++ capitalized label ++ " Errors"
    description := "Systematic resolution of " ++ toString fixes.length ++ " " ++ label ++ " errors"
    fixes
    executionOrder := fixes.map FixSuggestion.identifier
    estimatedMinutes := minutesPerFix * fixes.length
    risk := batchRisk (fixes.map fun suggestion => suggestion.safety.risk)
    subsystemProtection :=
      ["Verify designated subsystem behavior before starting",
        "Re-run the compiler between fixes",
        "Validate designated subsystems after completion"]
    validationCheckpoints :=
      ["After every " ++ toString minimumBatch ++ " " ++ label ++ " fixes",
        "Before proceeding to the next category",
        "Final compiler run with no new diagnostics"] }

/-- Where a fix comes in the plan for the subsystems: by tier, and then by the place of
its subsystem in the configuration; fixes of no subsystem come last. -/
def subsystemRank (subsystems : List (Subsystem Number)) (suggestion : FixSuggestion) :
    Nat × Nat :=
  match subsystems.findIdx? fun subsystem => suggestion.subsystem = some subsystem.title with
  | none => (2, subsystems.length)
  | some index =>
      match subsystems[index]? with
      | some subsystem => (if subsystem.tier = .primary then 0 else 1, index)
      | none => (2, subsystems.length)

/-- Whether a rank comes before another one or is the same. -/
def rankLe (first second : Nat × Nat) : Bool :=
  first.1 < second.1 || (first.1 = second.1 && first.2 ≤ second.2)

/-- The plan for the suggestions of subsystems. -/
def domainPlan (subsystems : List (Subsystem Number)) (fixes : List FixSuggestion) :
    BatchFixPlan :=
  let ordered := fixes.mergeSort fun first second =>
    rankLe (subsystemRank subsystems first) (subsystemRank subsystems second)
  { identifier := domainPlanIdentifier
    title := "Designated Subsystem Protection Plan"
    description := "Careful resolution of " ++ toString fixes.length ++
      " designated subsystem errors"
    fixes := ordered
    executionOrder := ordered.map FixSuggestion.identifier
    estimatedMinutes := minutesPerDomainFix * fixes.length
    risk := .high
    subsystemProtection :=
      "Back up all designated subsystem files" ::
        subsystems.map fun subsystem =>
          "Exercise " ++ subsystem.title ++ " features before starting"
    validationCheckpoints :=
      ["After each subsystem fix",
        "Full test suite for every designated subsystem",
        "User-facing validation of subsystem features"] }

/-- The plans for suggestions that are given in the order of their diagnostics. -/
def batchPlans (subsystems : List (Subsystem Number)) (suggestions : List FixSuggestion) :
    List BatchFixPlan :=
  let large := (groupByCategory suggestions).bindings.filter fun group =>
    minimumBatch ≤ group.2.length
  let domain := suggestions.filter fun suggestion => suggestion.category = .domain
  large.map (fun group => categoryPlan group.1 group.2) ++
    if domain.isEmpty then [] else [domainPlan subsystems domain]

end Triage
