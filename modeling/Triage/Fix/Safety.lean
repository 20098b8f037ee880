import Triage.Collection.Report
import Triage.Config

/-!
# What a fix puts at risk

Before a fix is suggested, two questions are asked.  How risky is a change at this
place: risky for diagnostics of a designated subsystem and for security, of medium
risk in sensitive files, of low risk elsewhere.  And which subsystems are touched:
the impact is that of the weightiest subsystem that the diagnostic concerns.

`checkSafety` and `checkImpact` fail where one of the questions has no answer.  The impact
is recorded by the names of all subsystems, so every one of them has to be a text.
-/

namespace Triage

set_option autoImplicit false

variable {Number : Type}

/-- The risk of a change and how to guard against it. -/
structure SafetyAnalysis where
  risk : Level
  potentialIssues : List String
  dependencyImpact : List String
  rollbackPlan : List String
  validationSteps : List String
deriving Repr, DecidableEq, Inhabited

/-- The record of a safety analysis in a report. -/
def SafetyAnalysis.toValue (analysis : SafetyAnalysis) : Value :=
  .table
    [("risk_level", .text analysis.risk.word),
      ("potential_issues", textList analysis.potentialIssues),
      ("dependency_impact", textList analysis.dependencyImpact),
      ("rollback_plan", textList analysis.rollbackPlan),
      ("validation_steps", textList analysis.validationSteps)]

/-- Whether a file is sensitive: one of the infrastructure markers occurs in its path. -/
def isInfrastructure? (profile : Profile) (file : Value) : Verdict :=
  profile.infrastructureMarkers.anyM file.holds?

/-- Whether a file is sensitive. -/
def isInfrastructure (profile : Profile) (file : Value) : Bool :=
  (isInfrastructure? profile file).passed

/-- Fail if it cannot be told whether the file of a diagnostic is sensitive. -/
def checkSafety (profile : Profile) (diagnostic : Diagnostic) : Except Failure Unit :=
  (isInfrastructure? profile diagnostic.file).check

/-- The risk of a change that mends a diagnostic. -/
def riskOf (profile : Profile) (diagnostic : Diagnostic) : Level :=
  if diagnostic.category = .domain ∨ diagnostic.category = .security then .high
  else if isInfrastructure profile diagnostic.file then .medium
  else .low

/-- The safety analysis of a diagnostic. -/
def analyzeSafety (profile : Profile) (diagnostic : Diagnostic) : SafetyAnalysis :=
  let domain := diagnostic.category = .domain
  let infrastructure := isInfrastructure profile diagnostic.file
  { risk := riskOf profile diagnostic
    potentialIssues :=
      (if domain then ["May affect designated subsystem functionality"] else []) ++
      (if infrastructure then ["Server or authentication code changes require careful testing"]
        else [])
    dependencyImpact :=
      (if domain then ["Could impact modules that depend on the subsystem"] else []) ++
      (if infrastructure then ["May affect authentication flow or server behavior"] else [])
    rollbackPlan :=
      ["Commit or back up the current file before changing it",
        "Record the original diagnostic output",
        "Revert the change if new diagnostics appear"]
    validationSteps :=
      ["Re-run the compiler and compare diagnostic counts",
        "Run the test suite for the affected module",
        "Check dependent modules for breaking changes"] }

/-- How much of the designated subsystems a fix touches. -/
inductive ImpactLevel where
  | none
  | minimal
  | moderate
  | significant
deriving Repr, DecidableEq, Inhabited

/-- The word for an impact level. -/
def ImpactLevel.word : ImpactLevel → String
  | .none => "none"
  | .minimal => "minimal"
  | .moderate => "moderate"
  | .significant => "significant"

/-- The impact level that a word stands for. -/
def ImpactLevel.ofWord? (word : String) : Option ImpactLevel :=
  [ImpactLevel.none, .minimal, .moderate, .significant].find? fun level => level.word = word

/-- The place of an impact level on its scale. -/
def ImpactLevel.rank : ImpactLevel → Nat
  | .none => 0
  | .minimal => 1
  | .moderate => 2
  | .significant => 3

/-- The weightier of two impact levels. -/
def ImpactLevel.max (first second : ImpactLevel) : ImpactLevel :=
  if first.rank < second.rank then second else first

/-- The impact of a fix that touches a subsystem of a tier. -/
def tierImpact : Tier → ImpactLevel
  | .primary => .significant
  | .secondary => .moderate

/-- Which subsystems a fix touches, and what to do about it. -/
structure DomainImpactAnalysis where
  affects : OrderedMap String Bool
  level : ImpactLevel
  mitigationSteps : List String
  /-- The form of each subsystem's name that is part of a report key. -/
  attributeNames : OrderedMap String String
deriving Repr, DecidableEq, Inhabited

/-- The key of the flag of a subsystem whose name has this form. -/
def flagKey (form : String) : String := "affects" ++ form

/-- The fields of a domain impact: the whole map, then a flag of its own for every
subsystem, then the level and the steps. -/
def DomainImpactAnalysis.fields (analysis : DomainImpactAnalysis) : List (String × Value) :=
  let affects := analysis.affects.bindings.map fun entry => (entry.1, Value.bool entry.2)
  let flags := analysis.affects.bindings.map fun entry =>
    (flagKey ((analysis.attributeNames.find? entry.1).getD entry.1), Value.bool entry.2)
  (OrderedMap.ofList
    ([("affects", Value.table affects)] ++ flags ++
      [("impact_level", .text analysis.level.word),
        ("mitigation_steps", textList analysis.mitigationSteps)])).bindings

/-- The record of a domain impact in a report. -/
def DomainImpactAnalysis.toValue (analysis : DomainImpactAnalysis) : Value :=
  .table analysis.fields

/-- The impact level of a diagnostic: that of the weightiest subsystem that it
concerns, and minimal for a diagnostic of the domain that concerns none. -/
def impactLevel (subsystems : List (Subsystem Number)) (diagnostic : Diagnostic) : ImpactLevel :=
  let concerned := subsystems.filter fun subsystem =>
    subsystem.concernedBy diagnostic.message diagnostic.file
  let level := (concerned.map fun subsystem => tierImpact subsystem.tier).foldl .max .none
  if level = .none ∧ diagnostic.category = .domain then .minimal else level

/-- The domain impact of a diagnostic. -/
def analyzeDomainImpact (subsystems : List (Subsystem Number)) (diagnostic : Diagnostic) :
    DomainImpactAnalysis :=
  let level := impactLevel subsystems diagnostic
  { affects := .ofList (subsystems.map fun subsystem =>
      (subsystem.title, subsystem.concernedBy diagnostic.message diagnostic.file))
    level
    mitigationSteps :=
      if level = .none then []
      else
        ["Re-test the affected subsystem features after the fix",
          "Verify data stays consistent across features that share these types",
          "Validate user-facing behavior of the affected features"]
    attributeNames := .ofList (subsystems.map fun subsystem =>
      (subsystem.title, subsystem.attributeName)) }

/-- Fail if it cannot be told which subsystems a diagnostic concerns, or how their names
are to be recorded. -/
def checkImpact (subsystems : List (Subsystem Number)) (diagnostic : Diagnostic) :
    Except Failure Unit := do
  subsystems.forM fun subsystem => do
    (subsystem.concerns? diagnostic.message diagnostic.file).check
    subsystem.checkEntry
  subsystems.forM fun subsystem => discard subsystem.name.toText

end Triage
