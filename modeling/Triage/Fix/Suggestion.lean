import Triage.Fix.Template

/-!
# Suggested fixes

A suggestion is a remediation for one diagnostic that a person has to review; nothing
in this library applies one.  Suggestions are listed from high to low priority, and
in the order of their diagnostics within a priority.
-/

namespace Triage

set_option autoImplicit false

variable {Number : Type}

/-- A remediation for a diagnostic. -/
structure FixSuggestion where
  identifier : String
  diagnosticIdentifier : String
  title : String
  description : String
  category : Category
  priority : Level
  complexity : Complexity
  steps : List Value
  safety : SafetyAnalysis
  impact : DomainImpactAnalysis
  /-- The name of the subsystem that is mended. -/
  subsystem : Option String
deriving Inhabited

/-- The record of a suggestion in a report. -/
def FixSuggestion.toValue (suggestion : FixSuggestion) : Value :=
  .table
    [("id", .text suggestion.identifier),
      ("diagnostic_id", .text suggestion.diagnosticIdentifier),
      ("title", .text suggestion.title), ("description", .text suggestion.description),
      ("category", .text suggestion.category.word), ("priority", .text suggestion.priority.word),
      ("complexity", .text suggestion.complexity.word), ("steps", .list suggestion.steps),
      ("safety_analysis", suggestion.safety.toValue),
      ("domain_impact", suggestion.impact.toValue),
      ("subsystem", match suggestion.subsystem with
        | some name => .text name
        | none => .null),
      ("manual_approval_required", .bool true)]

/-- The suggestion for a diagnostic. -/
def suggestFix (profile : Profile) (subsystems : List (Subsystem Number))
    (diagnostic : Diagnostic) : FixSuggestion :=
  let template := templateFor profile subsystems diagnostic
  { identifier := "fix_" ++ diagnostic.identifier
    diagnosticIdentifier := diagnostic.identifier
    title := template.title
    description := template.description
    category := diagnostic.category
    priority := template.priority
    complexity := template.complexity
    steps := template.steps
    safety := analyzeSafety profile diagnostic
    impact := analyzeDomainImpact subsystems diagnostic
    subsystem := template.subsystem }

/-- Fail if no suggestion can be made for a diagnostic. -/
def checkSuggestion (profile : Profile) (subsystems : List (Subsystem Number))
    (diagnostic : Diagnostic) : Except Failure Unit := do
  checkTemplate profile subsystems diagnostic
  diagnostic.checkFile
  checkSafety profile diagnostic
  checkImpact subsystems diagnostic

/-- Suggestions from high to low priority. -/
def sortByPriority (suggestions : List FixSuggestion) : List FixSuggestion :=
  suggestions.mergeSort fun first second => second.priority.rank ≤ first.priority.rank

end Triage
