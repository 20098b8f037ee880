import Triage.Collection.Report
import Triage.Display.Markup
import Triage.Failure
import Triage.Quality.Metrics
import Triage.Value.Showing

/-!
# The report card

The quality metrics in a panel whose border has the colour of the overall score, and
one line that accounts for what the collection kept and dropped.

Every subsystem has a line that starts with its name in a column.  Texts and numbers fit
into a column, and `checkCard` fails for names that do not, as it does for anything else
that has no text.
-/

namespace Triage.Display

set_option autoImplicit false

/-- The title of the report card unless another one is given. -/
def standardTitle : String := "diaglens Quality Report"

/-- The counts that the line below a report card shows. -/
structure CollectionCounts where
  diagnostics : Nat
  sourceFiles : Nat
  truncated : Int
  skipped : Int
  excluded : Int
  unreadable : Nat
deriving Repr, DecidableEq, Inhabited

/-- The counts of a collection. -/
def CollectionCounts.ofReport (report : CollectionReport) : CollectionCounts where
  diagnostics := report.diagnostics.length
  sourceFiles := report.sourceFileCount
  truncated := report.truncated
  skipped := report.skipped
  excluded := report.excludedDependencies
  unreadable := report.unreadableFiles.length

/-- One line about what was kept and dropped; counts of zero are left out. -/
def collectionLine (counts : CollectionCounts) : Item :=
  let shown (count : Int) (content : String) : List String := if count = 0 then [] else [content]
  .text ("  " ++ " | ".intercalate
    ([toString counts.diagnostics ++ " diagnostics",
        toString counts.sourceFiles ++ " source files"] ++
      shown counts.truncated (styled "yellow" (toString counts.truncated ++ " truncated")) ++
      shown counts.skipped (styled "yellow" (toString counts.skipped ++ " malformed skipped")) ++
      shown counts.excluded (toString counts.excluded ++ " in dependencies excluded") ++
      shown counts.unreadable (styled "yellow" (toString counts.unreadable ++ " unreadable"))))

/-- The width of the names of subsystems. -/
def nameWidth : Nat := 20

/-- A name in its column.  A truth value counts as a number there; a moment is shown by
the pattern of the column, in which it finds no place for itself. -/
def nameCell (name : Value) : String :=
  match name with
  | .moment _ => "<" ++ toString nameWidth
  | .bool truth => fillTo nameWidth (if truth then "1" else "0")
  | other => fillTo nameWidth other.display

/-- Fail unless a name fits into a column. -/
def checkName : Value → Except Failure Unit
  | .null | .list _ | .table _ => .error .wrongKind
  | name => name.checkShown

/-- The line of a subsystem. -/
def subsystemLine (unmatched : List Value) (name : Value) (score : Float) : String :=
  "    " ++ nameCell name ++ " " ++ progressBar score standardWidth ++ "  " ++
    outOfHundred score ++
    (if unmatched.contains name then "  " ++ styled "dim" "(no files matched)" else "")

/-- The line of a recommendation. -/
def recommendationLine (recommendation : QualityRecommendation) : String :=
  "  " ++ levelIcon recommendation.priority ++ " [" ++ recommendation.area ++ "] " ++
    recommendation.description.display

/-- A blank line and a list, or nothing when the list is empty. -/
def spaced (lines : List String) : List String := if lines.isEmpty then [] else "" :: lines

/-- The lines of the report card. -/
def cardLines (metrics : QualityMetrics Float) : List String :=
  let overall := metrics.overall
  ["",
    "  Overall Score:  " ++
      styled (scoreColor overall.score)
        (outOfHundred overall.score ++ "  (" ++ overall.grade ++ ")") ++
      "  " ++ styled "dim" ("trend: " ++ overall.trend.word),
    "",
    scoreLine "Type Safety" metrics.code.typeSafety,
    scoreLine "Maintainability" metrics.code.maintainability,
    scoreLine "Complexity" metrics.code.complexity,
    "  " ++ fillTo labelWidth "Error Density" ++ " " ++
      Decimal.fixed 1 metrics.code.errorDensity ++ "% of files",
    scoreLine "Security" metrics.security.score,
    scoreLine "Designated Subsystems" metrics.domain.aggregate] ++
  metrics.domain.subsystems.bindings.map
    (fun entry => subsystemLine metrics.domain.unmatched entry.1 entry.2) ++
  spaced (metrics.security.criticalIssues.map fun issue =>
    "  " ++ styled "red" "●" ++ " " ++ issue) ++
  spaced (metrics.recommendations.map recommendationLine) ++
  [""]

/-- Fail unless the report card can be made. -/
def checkCard (metrics : QualityMetrics Float) : Except Failure Unit := do
  metrics.domain.subsystems.keys.forM checkName
  metrics.recommendations.forM fun recommendation => recommendation.description.checkShown

/-- The report card, and the line about the collection when one was made. -/
def reportCard (metrics : QualityMetrics Float) (collection : Option CollectionCounts)
    (title : String) : List Item :=
  .panel (joinLines (cardLines metrics)) (styled "bold" title)
    (scoreColor metrics.overall.score) ::
  (collection.map collectionLine).toList

end Triage.Display
