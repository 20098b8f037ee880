import Triage.Display.Markup
import Triage.Fix.Report
import Triage.Limit
import Triage.Pattern.Basic
import Triage.Quality.Components
import Triage.Value.Showing

/-!
# Findings on a terminal

Patterns and components are shown as tables, suggested fixes in a panel that ends by
saying that none of them has been applied.
-/

namespace Triage.Display

set_option autoImplicit false

/-- The row of a pattern. -/
def patternRow (pattern : ErrorPattern) : List String :=
  [levelIcon pattern.severity ++ " " ++ pattern.severity.word, toString pattern.frequency,
    pattern.category.word, pattern.matcher, toString pattern.affectedFiles.length]

/-- The patterns of a report. -/
def patternTable (report : PatternReport) : List Item :=
  if report.patterns.isEmpty then
    [.text ("  " ++ styled "green" "No recurring diagnostic patterns.")]
  else
    .table "Recurring Diagnostic Patterns"
      [("Severity", .left), ("Count", .right), ("Category", .left), ("Pattern", .left),
        ("Files", .right)]
      (report.patterns.map patternRow) ::
    (report.subsystems.criticalIssues.map fun issue =>
      .text ("  " ++ styled "red" "●" ++ " " ++ issue)) ++
    report.recommendations.map fun recommendation =>
      .text ("  " ++ styled "cyan" ("-> " ++ recommendation))

/-- The lines of a suggestion. -/
def suggestionLines (suggestion : FixSuggestion) : List String :=
  ("  " ++ levelIcon suggestion.priority ++ " " ++ suggestion.title ++ "  " ++
    styled "dim" (suggestion.diagnosticIdentifier ++ " | risk " ++ suggestion.safety.risk.word)) ::
  suggestion.steps.map fun step => "     - " ++ step.display

/-- The colour of a risk. -/
def riskColor : Level → String
  | .high => "red"
  | .medium => "yellow"
  | .low => "green"

/-- The line of a plan. -/
def planLine (plan : BatchFixPlan) : String :=
  "  " ++ styled "bold" plan.title ++ "  " ++ toString plan.fixes.length ++ " fixes, ~" ++
    toString plan.estimatedMinutes ++ " min, risk " ++
    styled (riskColor plan.risk) plan.risk.word

/-- The line about suggestions that are not shown. -/
def remainingLines (remaining : Int) : List String :=
  if 0 < remaining then
    ["  " ++ styled "dim"
      ("... " ++ toString remaining ++ " more (use --export for the full list)"), ""]
  else []

/-- The line with the number of suggestions of each priority. -/
def priorityLine (report : FixReport) : String :=
  "  " ++ " | ".intercalate
    (report.byPriority.map fun entry => toString entry.2 ++ " " ++ entry.1)

/-- Fail unless the steps of the suggestions up to a limit can be shown. -/
def checkPanel (report : FixReport) (limit : Int) : Except Failure Unit :=
  (takeLimited limit report.suggestions).forM fun suggestion =>
    suggestion.steps.forM Value.checkShown

/-- The suggestions of a report up to a limit, and its plans. -/
def fixPanel (report : FixReport) (limit : Int) : List Item :=
  let shown := takeLimited limit report.suggestions
  [.panel
    (joinLines
      ([""] ++
        shown.flatMap (fun suggestion => suggestionLines suggestion ++ [""]) ++
        remainingLines (report.suggestions.length - limit) ++
        report.plans.map planLine ++
        (if report.plans.isEmpty then [] else [""]) ++
        [priorityLine report,
          "  " ++ styled "yellow" "All suggestions require manual review and approval.", ""]))
    (styled "bold" "diaglens Fix Recommendations") "cyan"]

/-- The row of a component. -/
def componentRow (component : ComponentHealth) : List String :=
  [component.path,
    styled (scoreColor (Scalar.ofInt component.score : Float)) (toString component.score),
    toString component.alignment,
    if component.issues.isEmpty then "-" else "; ".intercalate component.issues]

/-- The components of a scan and the files that it could not read. -/
def componentTable (scan : ComponentScan) : List Item :=
  if scan.components.isEmpty && scan.unreadable.isEmpty then
    [.text ("  " ++ styled "dim" "No designated subsystem files found.")]
  else
    .table "Component Health (advisory)"
      [("Component", .left), ("Health", .right), ("Alignment", .right), ("Issues", .left)]
      (scan.components.map componentRow) ::
    scan.unreadable.map fun path =>
      .text ("  " ++ styled "yellow" "Excluded unreadable file:" ++ " " ++ path)

end Triage.Display
