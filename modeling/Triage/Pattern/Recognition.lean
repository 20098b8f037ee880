import Triage.Journal
import Triage.Pattern.Basic
import Triage.Pattern.Identifier
import Triage.Subsystem
import Triage.Value.Showing

/-!
# Recognising patterns

Two diagnostics belong to the same pattern when their messages normalize to the same
text, and a message becomes a pattern when at least two diagnostics say it.  Beside
these patterns there is one that gathers every diagnostic of a designated subsystem,
whatever its message says.  Patterns are listed by falling frequency; patterns of
equal frequency stay in the order in which their messages first occurred, and the
gathering pattern comes after its equals.

`checkPatterns` and `checkCounts` fail where making the report would come upon a value of
the wrong kind: a message or a file that is no text, a keyword or a glob that is none and
is needed, a name that has to be shown or written between others.
-/

namespace Triage

set_option autoImplicit false

variable {Number : Type}

/-- The identifier of the pattern that gathers the diagnostics of subsystems. -/
def gatheringIdentifier : String := "designated_subsystem_errors"

/-- A pattern with more diagnostics than this is frequent. -/
def highFrequency : Int := 10

/-- From this frequency on a pattern is of medium severity. -/
def mediumFrequency : Int := 5

/-- The name of the patterns of a category. -/
def patternName : Category → String
  | .importing => "Import Issue"
  | .typing => "Type Error"
  | .syntactic => "Syntax Problem"
  | .domain => "Designated Subsystem Issue"
  | .security => "Security Concern"
  | .other => "General Error"

/-- What to do about the patterns of a category. -/
def patternFix : Category → String
  | .importing => "Check import paths and ensure dependencies are installed"
  | .typing => "Review type definitions and ensure proper typing"
  | .syntactic => "Fix the syntax error reported by the compiler"
  | .domain => "Verify the subsystem's type definitions and imports"
  | .security => "Improve type safety and remove permissive type usage"
  | .other => "Review the error message and apply an appropriate fix"

/-- Texts in order, each once. -/
def sortedTexts (texts : List String) : List String :=
  texts.eraseDups.mergeSort fun first second => !(second < first)

/-- The diagnostics by what they say, in the order in which it is first said. -/
def groupByMessage (diagnostics : List Diagnostic) : OrderedMap String (List Diagnostic) :=
  diagnostics.foldl
    (fun groups diagnostic =>
      let said := Message.normalize diagnostic.said
      groups.insert said ((groups.find? said).getD [] ++ [diagnostic]))
    .empty

/-- The impact of a pattern on the subsystems, by how many of its files concern one. -/
def impactOfFiles (subsystems : List (Subsystem Number)) (files : List Value) : DomainImpact :=
  let hits := files.countP fun file =>
    subsystems.any fun subsystem => (subsystem.concernsFile? file).passed
  if 3 < hits then .high
  else if 1 < hits then .medium
  else if 0 < hits then .low
  else .none

/-- How severe a pattern is. -/
def patternSeverity (frequency : Int) (impact : DomainImpact) : Level :=
  if highFrequency < frequency ∨ impact = .high then .high
  else if mediumFrequency ≤ frequency then .medium
  else .low

/-- The category of a pattern: domain when a keyword of a subsystem occurs in what it
says or in one of its messages, and else that of its first diagnostic. -/
def patternCategory (subsystems : List (Subsystem Number)) (said : String)
    (group : List Diagnostic) : Category :=
  let texts := .text said :: group.map Diagnostic.message
  if subsystems.any fun subsystem => texts.any subsystem.matchesText then .domain
  else (group.head?.map Diagnostic.category).getD .other

/-- The pattern of a group of diagnostics that say the same. -/
def patternOfGroup (subsystems : List (Subsystem Number)) (identifier said : String)
    (group : List Diagnostic) : ErrorPattern :=
  let category := patternCategory subsystems said group
  let impact := impactOfFiles subsystems (group.map Diagnostic.file).eraseDups
  { identifier
    name := patternName category
    description := "Pattern occurring " ++ toString group.length ++ " times: " ++ said
    matcher := said
    category
    frequency := group.length
    severity := patternSeverity group.length impact
    affectedFiles := sortedTexts (group.map Diagnostic.basename)
    suggestedFix := patternFix category
    domainImpact := impact
    keywords := [] }

/-- The patterns of groups, each with a free identifier. -/
def patternsOfGroups (subsystems : List (Subsystem Number)) (taken : TakenIdentifiers) :
    List (String × List Diagnostic) → List ErrorPattern
  | [] => []
  | (said, group) :: rest =>
      if group.length < 2 then patternsOfGroups subsystems taken rest
      else
        let (identifier, taken) := taken.fresh (Message.slug said Message.slugLength)
        patternOfGroup subsystems identifier said group :: patternsOfGroups subsystems taken rest

/-- Whether a diagnostic concerns one of the subsystems. -/
def concernsAny (subsystems : List (Subsystem Number)) (diagnostic : Diagnostic) : Bool :=
  subsystems.any fun subsystem => subsystem.concernedBy diagnostic.message diagnostic.file

/-- The pattern that gathers the diagnostics of subsystems, when there are any. -/
def gatheringPattern (subsystems : List (Subsystem Number)) (diagnostics : List Diagnostic) :
    Option ErrorPattern :=
  let concerned := diagnostics.filter (concernsAny subsystems)
  let keywords := subsystems.flatMap Subsystem.keywords
  if concerned.isEmpty then none
  else some
    { identifier := gatheringIdentifier
      name := "Designated Subsystem Type Issues"
      description := toString concerned.length ++ " errors affecting designated subsystems"
      matcher := "|".intercalate (keywords.map Value.display)
      category := .domain
      frequency := concerned.length
      severity := .high
      affectedFiles := sortedTexts (concerned.map Diagnostic.basename)
      suggestedFix := "Review subsystem type definitions and imports"
      domainImpact := if 5 < concerned.length then .high else .medium
      keywords }

/-- The patterns of a list of diagnostics. -/
def findPatterns (subsystems : List (Subsystem Number)) (diagnostics : List Diagnostic) :
    List ErrorPattern :=
  let taken : TakenIdentifiers := .ofList [(gatheringIdentifier, 1)]
  let recurring := patternsOfGroups subsystems taken (groupByMessage diagnostics).bindings
  (recurring ++ (gatheringPattern subsystems diagnostics).toList).mergeSort
    fun first second => second.frequency ≤ first.frequency

/-- Fail if the pattern of a group of diagnostics that say the same cannot be made. -/
def checkGroup (subsystems : List (Subsystem Number)) (said : String)
    (group : List Diagnostic) : Except Failure Unit := do
  group.forM Diagnostic.checkFile
  let texts := .text said :: group.map Diagnostic.message
  Verdict.check (subsystems.anyM fun subsystem => texts.anyM subsystem.matchesText?)
  group.forM fun diagnostic =>
    Verdict.check (subsystems.anyM fun subsystem => subsystem.concernsFile? diagnostic.file)

/-- Fail if the pattern that gathers the diagnostics of subsystems cannot be made. -/
def checkGathering (subsystems : List (Subsystem Number)) (diagnostics : List Diagnostic) :
    Except Failure Unit := do
  diagnostics.forM fun diagnostic =>
    Verdict.check (subsystems.anyM fun subsystem =>
      subsystem.concerns? diagnostic.message diagnostic.file)
  let concerned := diagnostics.filter (concernsAny subsystems)
  if !concerned.isEmpty then
    (subsystems.flatMap Subsystem.keywords).forM fun keyword => discard keyword.toText
    concerned.forM Diagnostic.checkFile

/-- Fail if patterns cannot be found in a list of diagnostics. -/
def checkPatterns (subsystems : List (Subsystem Number)) (diagnostics : List Diagnostic) :
    Except Failure Unit := do
  diagnostics.forM fun diagnostic => discard (diagnostic.message.textOr .notATable)
  (groupByMessage diagnostics).bindings.forM fun (said, group) =>
    if group.length < 2 then pure () else checkGroup subsystems said group
  checkGathering subsystems diagnostics

/-- The trend of a pattern, read off its frequency alone. -/
def trendOf (observedAt : String) (pattern : ErrorPattern) : PatternTrend where
  pattern := pattern.name
  occurrences := pattern.frequency
  firstSeen := observedAt
  trend :=
    if highFrequency < pattern.frequency then .increasing
    else if mediumFrequency < pattern.frequency then .stable
    else .decreasing

/-- How many diagnostics concern a subsystem. -/
def concernCount (subsystem : Subsystem Number) (diagnostics : List Diagnostic) : Nat :=
  diagnostics.countP fun diagnostic =>
    subsystem.concernedBy diagnostic.message diagnostic.file

/-- Whether the count of a subsystem is critical. -/
def isCritical (diagnostics : List Diagnostic) (subsystem : Subsystem Number) : Bool :=
  subsystem.criticalThreshold < concernCount subsystem diagnostics

/-- The counts of all subsystems, and the subsystems whose count is critical. -/
def countSubsystems (subsystems : List (Subsystem Number)) (diagnostics : List Diagnostic) :
    SubsystemCounts :=
  let critical := subsystems.filter (isCritical diagnostics)
  { counts := .ofList (subsystems.map fun subsystem =>
      (subsystem.name, concernCount subsystem diagnostics))
    criticalIssues := critical.map fun subsystem =>
      toString (concernCount subsystem diagnostics) ++ " errors in the " ++ subsystem.title ++
        " subsystem (threshold " ++ toString subsystem.criticalThreshold ++ ")"
    criticalSubsystems := critical.map Subsystem.name }

/-- Fail if the diagnostics of subsystems cannot be counted, or if critical subsystems
cannot be named. -/
def checkCounts (subsystems : List (Subsystem Number)) (diagnostics : List Diagnostic) :
    Except Failure Unit := do
  subsystems.forM fun subsystem => do
    diagnostics.forM fun diagnostic =>
      (subsystem.concerns? diagnostic.message diagnostic.file).check
    subsystem.checkEntry
    if isCritical diagnostics subsystem then subsystem.name.checkShown
  (countSubsystems subsystems diagnostics).criticalSubsystems.forM fun name =>
    discard name.toText

/-- What to do about the patterns as a whole. -/
def patternRecommendations (patterns : List ErrorPattern) (counts : SubsystemCounts) :
    List String :=
  let widespread := patterns.countP fun pattern =>
    highFrequency < pattern.frequency && 1 < pattern.affectedFiles.length
  let importing := patterns.countP fun pattern => pattern.category = .importing
  let security := patterns.countP fun pattern => pattern.category = .security
  (if widespread = 0 then []
    else ["Address " ++ toString widespread ++
      " high-frequency error patterns affecting multiple files"]) ++
  (if counts.criticalSubsystems.isEmpty then []
    else ["Critical designated-subsystem issues detected - prioritize fixes in " ++
      ", ".intercalate (counts.criticalSubsystems.map Value.display)]) ++
  (if importing = 0 then []
    else ["Resolve " ++ toString importing ++ " import patterns to improve module resolution"]) ++
  (if security = 0 then []
    else ["Review " ++ toString security ++
      " security-related patterns for type safety improvements"])

/-- The pattern report of a list of diagnostics. -/
def recognizePatterns (subsystems : List (Subsystem Number)) (observedAt : String)
    (diagnostics : List Diagnostic) : PatternReport :=
  let patterns := findPatterns subsystems diagnostics
  let counts := countSubsystems subsystems diagnostics
  { patterns
    trends := patterns.map (trendOf observedAt)
    subsystems := counts
    recommendations := patternRecommendations patterns counts
    diagnosticCount := diagnostics.length
    observedAt }

/-- Make the pattern report and note it. -/
def reportPatterns (subsystems : List (Subsystem Number)) (observedAt : String)
    (diagnostics : List Diagnostic) : Run PatternReport := do
  checkPatterns subsystems diagnostics
  checkCounts subsystems diagnostics
  let report := recognizePatterns subsystems observedAt diagnostics
  Run.info ("Found " ++ toString report.patterns.length ++ " patterns in " ++
    toString diagnostics.length ++ " diagnostics")
  return report

end Triage
