import Triage.Profile
import Triage.Scalar
import Triage.Subsystem

/-!
# Configuration

What an analysis can be told: which directories to leave out, how many diagnostics
to keep, which subsystems to look after, how to run the compiler, and how to weigh
the quality score.  Every setting has a default.

Settings that are numbers are numbers here.  Settings that would be texts are kept as
they were written, whatever they are, and it is up to those who use them to look.
-/

namespace Triage

set_option autoImplicit false

/-- What to keep of the diagnostics and which subsystems to look after. -/
structure Options (Number : Type) where
  /-- Keep diagnostics that lie inside dependencies. -/
  includeDependencies : Bool := false
  /-- How many diagnostics to keep; all of them without a number. -/
  maxDiagnostics : Option Int := some 100
  subsystems : List (Subsystem Number) := []
deriving Inhabited

/-- The weights and penalties of the quality score. -/
structure Weights (Number : Type) where
  code : Number
  domain : Number
  security : Number
  /-- What a typing error takes off the type safety. -/
  typeErrorPenalty : Number
  /-- What a diagnostic per file takes off the score of a subsystem. -/
  subsystemErrorPenalty : Number
  /-- What a vulnerability takes off the security score. -/
  vulnerabilityPenalty : Number
  /-- The score of a subsystem without files. -/
  neutralSubsystemScore : Number
  /-- How far a score may move without a trend. -/
  trendTolerance : Number
deriving Repr, DecidableEq, Inhabited

/-- The standard weights and penalties. -/
def Weights.standard {Number : Type} [Scalar Number] : Weights Number where
  code := Scalar.ofRatio 3 10
  domain := Scalar.ofRatio 1 2
  security := Scalar.ofRatio 1 5
  typeErrorPenalty := Scalar.ofInt 2
  subsystemErrorPenalty := Scalar.ofInt 20
  vulnerabilityPenalty := Scalar.ofInt 3
  neutralSubsystemScore := Scalar.ofInt 50
  trendTolerance := Scalar.ofInt 2

/-- How quality is scored. -/
structure QualitySettings (Number : Type) where
  /-- The complexity score; estimated from the source files when it is not given. -/
  complexity : Option Number
  /-- The suffixes of source files. -/
  extensions : List Value
  weights : Weights Number
deriving Inhabited

/-- Texts as they would be written in a setting. -/
def textValues (texts : List String) : List Value := texts.map .text

/-- The suffixes of source files unless others are given. -/
def standardExtensions : List String := [".ts", ".tsx"]

/-- The standard way to score quality. -/
def QualitySettings.standard {Number : Type} [Scalar Number] : QualitySettings Number :=
  ⟨none, textValues standardExtensions, .standard⟩

/-- The directories that are left out unless others are given. -/
def standardExclude : List String := ["node_modules/", "dist/", "build/", ".git/", "coverage/"]

/-- The configuration of an analysis. -/
structure Config (Number : Type) where
  /-- A list of names of directories and files that are left out. -/
  exclude : Value
  analysis : Options Number
  compiler : Profile
  quality : QualitySettings Number
deriving Inhabited

/-- The configuration of a project that says nothing. -/
def Config.standard {Number : Type} [Scalar Number] : Config Number :=
  ⟨.list (textValues standardExclude), {}, {}, .standard⟩

/-- The health threshold of a subsystem unless another one is given. -/
def standardHealthThreshold {Number : Type} [Scalar Number] : Number := Scalar.ofInt 90

/-- The critical threshold of a subsystem unless another one is given. -/
def standardCriticalThreshold : Int := 5

/-- A subsystem that is given by its name and its keywords. -/
def Subsystem.designate {Number : Type} [Scalar Number] (name : String) (keywords : List String)
    (tier : Tier) : Subsystem Number :=
  Subsystem.withDefaults
    { name := .text name, keywords := textValues keywords, globs := [], tier := tier
      healthThreshold := standardHealthThreshold
      criticalThreshold := standardCriticalThreshold
      recommendation := .text "", validationSteps := [] }

end Triage
