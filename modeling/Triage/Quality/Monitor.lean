import Triage.Decimal.Places
import Triage.Pattern.Recognition
import Triage.Quality.Complexity
import Triage.Quality.Metrics

/-!
# Scoring quality

The diagnostics of an analysis are folded into one score.  The code is scored by its
typing errors, by the share of files with diagnostics, and by its complexity; every
subsystem by its diagnostics per file; security by security issues and by mentions of
permissive types.  The overall score weighs the three, its grade is a letter, and its
trend compares it with the score of the run before.
-/

namespace Triage

set_option autoImplicit false

variable {Number : Type} [Scalar Number]

/-- A hundred less a penalty, and not below zero. -/
def penalized (penalty : Number) : Number :=
  Scalar.greater (Scalar.ofInt 0) (Scalar.ofInt 100 - penalty)

/-- The number of diagnostics of a category. -/
def categoryCount (category : Category) (diagnostics : List Diagnostic) : Nat :=
  diagnostics.countP fun diagnostic => diagnostic.category = category

/-- The share of files with diagnostics in percent; zero when there are no files. -/
def errorDensity (diagnostics : List Diagnostic) (fileCount : Nat) : Number :=
  let files := (diagnostics.map Diagnostic.file).eraseDups.length
  if fileCount = 0 then Scalar.ofInt 0
  else Scalar.clamp (Scalar.ofCount (100 * files) / Scalar.ofCount fileCount)

/-- The health of the code with a given complexity score. -/
def codeHealthWith (weights : Weights Number) (diagnostics : List Diagnostic) (fileCount : Nat)
    (complexity : Number) (unreadableFiles : List String) : CodeHealth Number :=
  let typeSafety :=
    penalized (weights.typeErrorPenalty * Scalar.ofCount (categoryCount .typing diagnostics))
  let density := errorDensity diagnostics fileCount
  { typeSafety
    errorDensity := density
    complexity
    maintainability := Scalar.mean [typeSafety, Scalar.ofInt 100 - density, complexity]
    unreadableFiles }

/-- The health of the code. -/
def codeHealth (disk : Disk) (tree : SourceTree) (settings : QualitySettings Number)
    (diagnostics : List Diagnostic) : CodeHealth Number :=
  let files := tree.files disk
  match settings.complexity with
  | some complexity => codeHealthWith settings.weights diagnostics files.length complexity []
  | none =>
      codeHealthWith settings.weights diagnostics files.length (estimateComplexity disk tree)
        ((unreadablePlaces disk files).map tree.relative)

/-- The score of a subsystem with some files. -/
def subsystemScore (weights : Weights Number) (subsystem : Subsystem Number)
    (diagnostics : List Diagnostic) (fileCount : Nat) : Number :=
  if fileCount = 0 then weights.neutralSubsystemScore
  else
    penalized (weights.subsystemErrorPenalty *
      Scalar.ofCount (concernCount subsystem diagnostics) / Scalar.ofCount fileCount)

/-- The health of the subsystems, each with the number of its files. -/
def domainHealthWith (weights : Weights Number) (diagnostics : List Diagnostic)
    (subsystems : List (Subsystem Number × Nat)) : DomainHealth Number :=
  let scores : OrderedMap Value Number := .ofList (subsystems.map fun (subsystem, fileCount) =>
    (subsystem.name, subsystemScore weights subsystem diagnostics fileCount))
  { subsystems := scores
    aggregate := Scalar.mean scores.values
    unmatched := (subsystems.filter fun entry => entry.2 = 0).map fun entry => entry.1.name }

/-- The health of the subsystems. -/
def domainHealth (disk : Disk) (tree : SourceTree) (weights : Weights Number)
    (subsystems : List (Subsystem Number)) (diagnostics : List Diagnostic) :
    DomainHealth Number :=
  domainHealthWith weights diagnostics
    (subsystems.map fun subsystem => (subsystem, (tree.filesFor disk subsystem).length))

/-- More mentions of permissive types than this are critical. -/
def permissiveLimit : Nat := 10

/-- How safe the types are against misuse. -/
def securityAssessment (weights : Weights Number) (profile : Profile)
    (diagnostics : List Diagnostic) (patterns : List ErrorPattern) :
    SecurityAssessment Number :=
  let permissive := Marker.hits profile.permissiveMarkers (diagnostics.map Diagnostic.message)
  let vulnerabilities := categoryCount .security diagnostics + permissive
  let score := penalized (weights.vulnerabilityPenalty * Scalar.ofCount vulnerabilities)
  let recurring := patterns.countP fun pattern => pattern.category = .security
  { score
    vulnerabilities
    grade := gradeFor score
    criticalIssues :=
      (if permissiveLimit < permissive then
        ["High permissive type usage (" ++ toString permissive ++
          " instances) reduces type safety"] else []) ++
      (if recurring = 0 then []
        else [toString recurring ++ " recurring security-related patterns"]) }

/-- The trend of a score against the score of the run before, if there was one. -/
def qualityTrend (tolerance score : Number) : Option Number → QualityTrend
  | none => .stable
  | some previous =>
      if Scalar.lessThan (previous + tolerance) score then .improving
      else if Scalar.lessThan score (previous - tolerance) then .declining
      else .stable

/-- The overall score. -/
def overallScore (weights : Weights Number) (previous : Option Number) (code : CodeHealth Number)
    (domain : DomainHealth Number) (security : SecurityAssessment Number) :
    OverallScore Number :=
  let score := weights.code * code.composite + weights.domain * domain.aggregate +
    weights.security * security.score
  { score
    grade := gradeFor score
    trend := qualityTrend weights.trendTolerance score previous }

/-- What to do about the code. -/
def codeRecommendations (code : CodeHealth Number) : List QualityRecommendation :=
  (if Scalar.lessThan code.typeSafety (Scalar.ofInt 80) then
    [⟨.high, "code", .text "Improve type safety by fixing type errors",
      "Better code reliability and developer experience"⟩] else []) ++
  (if Scalar.lessThan (Scalar.ofInt 20) code.errorDensity then
    [⟨.medium, "code", .text "Reduce error density across project files",
      "Improved code quality and maintainability"⟩] else [])

/-- Whether a subsystem has files and a score below its threshold. -/
def isUnhealthy (domain : DomainHealth Number) (subsystem : Subsystem Number) : Bool :=
  !domain.unmatched.contains subsystem.name &&
    (domain.subsystems.find? subsystem.name).any fun score =>
      Scalar.lessThan score subsystem.healthThreshold

/-- What to do about a subsystem. -/
def subsystemRecommendation (domain : DomainHealth Number) (subsystem : Subsystem Number) :
    List QualityRecommendation :=
  if isUnhealthy domain subsystem then
    [⟨.high, "domain",
      if subsystem.recommendation.isTruthy then subsystem.recommendation
      else .text ("Address " ++ subsystem.title ++ " type issues to keep the subsystem stable"),
      "Preserve reliable " ++ subsystem.title ++ " behavior for users"⟩]
  else []

/-- What to do about the subsystems. -/
def domainRecommendations (domain : DomainHealth Number) (subsystems : List (Subsystem Number)) :
    List QualityRecommendation :=
  subsystems.flatMap (subsystemRecommendation domain) ++
  (if domain.unmatched.isEmpty then []
    else [⟨.low, "domain",
      .text ("Check subsystem globs, no source files matched: " ++
        ", ".intercalate (domain.unmatched.map Value.display)),
      "Subsystem health is scored neutral until files are matched"⟩]) ++
  (if Scalar.lessThan domain.aggregate (Scalar.ofInt 80) then
    [⟨.high, "domain", .text "Comprehensive designated subsystem type review needed",
      "Keep the platform's core features dependable"⟩] else [])

/-- What to do about security. -/
def securityRecommendations (security : SecurityAssessment Number) :
    List QualityRecommendation :=
  (if Scalar.lessThan security.score (Scalar.ofInt 70) then
    [⟨.high, "security", .text "Enhance type security by reducing permissive type usage",
      "Improved application security and type safety"⟩] else []) ++
  (if security.criticalIssues.isEmpty then []
    else [⟨.high, "security", .text "Address critical security issues identified in analysis",
      "Enhanced security posture and reduced vulnerability risk"⟩])

/-- Everything to do about the quality, from high to low priority. -/
def qualityRecommendations (subsystems : List (Subsystem Number)) (code : CodeHealth Number)
    (domain : DomainHealth Number) (security : SecurityAssessment Number) :
    List QualityRecommendation :=
  (codeRecommendations code ++ domainRecommendations domain subsystems ++
    securityRecommendations security).mergeSort
      fun first second => second.priority.rank ≤ first.priority.rank

/-- What a quality score is measured on, beside the diagnostics. -/
structure QualityScope (Number : Type) where
  tree : SourceTree
  settings : QualitySettings Number
  profile : Profile
  subsystems : List (Subsystem Number)
  /-- The overall score of the run before. -/
  previous : Option Number

/-- The metrics of a list of diagnostics and of the patterns in it. -/
def measureQuality (disk : Disk) (scope : QualityScope Number) (diagnostics : List Diagnostic)
    (patterns : List ErrorPattern) : QualityMetrics Number :=
  let weights := scope.settings.weights
  let code := codeHealth disk scope.tree scope.settings diagnostics
  let domain := domainHealth disk scope.tree weights scope.subsystems diagnostics
  let security := securityAssessment weights scope.profile diagnostics patterns
  { code, domain, security
    overall := overallScore weights scope.previous code domain security
    recommendations := qualityRecommendations scope.subsystems code domain security }

/-! ## Making the report -/

/-- Fail unless the files of diagnostics can be counted, each once. -/
def checkFileNames (diagnostics : List Diagnostic) : Except Failure Unit :=
  diagnostics.forM fun diagnostic =>
    if diagnostic.file.namesEntry then .ok () else .error .wrongKind

/-- Ask for the score of a subsystem, and note when it has no files. -/
def noteSubsystem (disk : Disk) (tree : SourceTree) (diagnostics : List Diagnostic)
    (subsystem : Subsystem Number) : Run Unit := do
  tree.checkFilesFor disk subsystem
  if (tree.filesFor disk subsystem).isEmpty then
    Run.note .info do
      subsystem.name.checkShown
      return "No source files matched subsystem " ++ subsystem.title
  else
    (diagnostics.forM fun diagnostic =>
      (subsystem.concerns? diagnostic.message diagnostic.file).check : Except Failure Unit)
  subsystem.checkEntry

/-- Fail unless the subsystems that something is to be done about can be named: the
unhealthy ones in a sentence, and those without files between others. -/
def checkNamed (domain : DomainHealth Number) (subsystems : List (Subsystem Number)) :
    Except Failure Unit := do
  subsystems.forM fun subsystem =>
    if isUnhealthy domain subsystem then subsystem.name.checkShown else .ok ()
  domain.unmatched.forM fun name => discard name.toText

/-- Measure quality, scan the components when they are wanted, and note what could not
be read. -/
def reportQuality (disk : Disk) (scope : QualityScope Float) (observedAt : String)
    (diagnostics : List Diagnostic) (patterns : List ErrorPattern) (withComponents : Bool) :
    Run (QualityReport Float) := do
  let files ← (scope.tree.files? disk : Except Failure (List Place))
  checkFileNames diagnostics
  if scope.settings.complexity.isNone then
    for place in unreadablePlaces disk files do
      Run.warn ("Skipping unreadable file for complexity estimate: " ++ (Path.ofPlace place).text)
  scope.subsystems.forM (noteSubsystem disk scope.tree diagnostics)
  Marker.checkHits scope.profile.permissiveMarkers (diagnostics.map Diagnostic.message)
  let metrics := measureQuality disk scope diagnostics patterns
  checkNamed metrics.domain scope.subsystems
  Run.info ("Overall quality " ++ Decimal.fixed 1 metrics.overall.score ++ " (" ++
    metrics.overall.grade ++ ")")
  if withComponents then
    let scan ← reportComponents disk scope.tree scope.profile scope.subsystems
    if !scan.unreadable.isEmpty then
      Run.warn (toString scan.unreadable.length ++ " component files could not be read")
    return ⟨metrics, some scan, observedAt⟩
  else return ⟨metrics, none, observedAt⟩

end Triage
