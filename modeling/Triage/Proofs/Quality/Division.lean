import Triage.Proofs.Quality.Arithmetic

/-!
# What scores divide by

Rational numbers have a quotient for every divisor, zero among them, so a score that is read in
them does not show whether it was divided by zero on the way.  It does not happen: a score
divides by nothing but whole numbers that are not zero.  That is said without a look at the
single divisions.  A map from one kind of number to another renders the operations when it
respects them, quotients only where the divisor is a whole number other than zero
(`Scalar.Renders`), and every such map renders the metrics (`measureQuality_map`).

Guarded numbers make use of it.  A quotient by zero is lost in them, and so is every number that
is computed from a lost one (`Guarded.clamp_lost`, `Guarded.penalized_lost`,
`Guarded.mean_of_lost_mem`).  Rational numbers are guarded by a map that renders the operations
(`Guarded.renders_of`), so of the metrics in guarded numbers none is lost.
-/

namespace Triage

set_option autoImplicit false

variable {First Second : Type}

/-! ## Metrics in another kind of number -/

/-- A table with other entries. -/
def OrderedMap.mapEntries {Key : Type} (convert : First → Second) (table : OrderedMap Key First) :
    OrderedMap Key Second :=
  ⟨table.bindings.map fun binding => (binding.1, convert binding.2)⟩

/-- A subsystem with its threshold in another kind of number. -/
def Subsystem.map (convert : First → Second) (subsystem : Subsystem First) : Subsystem Second :=
  { subsystem with healthThreshold := convert subsystem.healthThreshold }

/-- Weights in another kind of number. -/
def Weights.map (convert : First → Second) (weights : Weights First) : Weights Second where
  code := convert weights.code
  domain := convert weights.domain
  security := convert weights.security
  typeErrorPenalty := convert weights.typeErrorPenalty
  subsystemErrorPenalty := convert weights.subsystemErrorPenalty
  vulnerabilityPenalty := convert weights.vulnerabilityPenalty
  neutralSubsystemScore := convert weights.neutralSubsystemScore
  trendTolerance := convert weights.trendTolerance

/-- Settings in another kind of number. -/
def QualitySettings.map (convert : First → Second) (settings : QualitySettings First) :
    QualitySettings Second where
  complexity := settings.complexity.map convert
  extensions := settings.extensions
  weights := settings.weights.map convert

/-- What is measured on, in another kind of number. -/
def QualityScope.map (convert : First → Second) (scope : QualityScope First) :
    QualityScope Second where
  tree := scope.tree
  settings := scope.settings.map convert
  profile := scope.profile
  subsystems := scope.subsystems.map (Subsystem.map convert)
  previous := scope.previous.map convert

/-- The health of the code in another kind of number. -/
def CodeHealth.map (convert : First → Second) (health : CodeHealth First) : CodeHealth Second where
  typeSafety := convert health.typeSafety
  errorDensity := convert health.errorDensity
  complexity := convert health.complexity
  maintainability := convert health.maintainability
  unreadableFiles := health.unreadableFiles

/-- The health of the subsystems in another kind of number. -/
def DomainHealth.map (convert : First → Second) (health : DomainHealth First) :
    DomainHealth Second where
  subsystems := health.subsystems.mapEntries convert
  aggregate := convert health.aggregate
  unmatched := health.unmatched

/-- The security assessment in another kind of number. -/
def SecurityAssessment.map (convert : First → Second) (security : SecurityAssessment First) :
    SecurityAssessment Second :=
  { security with score := convert security.score }

/-- The overall score in another kind of number. -/
def OverallScore.map (convert : First → Second) (overall : OverallScore First) :
    OverallScore Second :=
  { overall with score := convert overall.score }

/-- Metrics in another kind of number. -/
def QualityMetrics.map (convert : First → Second) (metrics : QualityMetrics First) :
    QualityMetrics Second where
  code := metrics.code.map convert
  domain := metrics.domain.map convert
  security := metrics.security.map convert
  overall := metrics.overall.map convert
  recommendations := metrics.recommendations

/-! ## Maps that render the operations -/

variable [Scalar First] [Scalar Second] {convert : First → Second}

namespace Scalar

/-- A map between kinds of numbers respects the operations and the comparisons; of the quotients
only those by whole numbers that are not zero. -/
structure Renders (convert : First → Second) : Prop where
  ofInt : ∀ number, convert (Scalar.ofInt number) = Scalar.ofInt number
  add : ∀ first second, convert (first + second) = convert first + convert second
  sub : ∀ first second, convert (first - second) = convert first - convert second
  mul : ∀ first second, convert (first * second) = convert first * convert second
  div : ∀ number divisor, divisor ≠ 0 →
    convert (number / Scalar.ofInt divisor) = convert number / Scalar.ofInt divisor
  atMost : ∀ first second, atMost (convert first) (convert second) = atMost first second
  lessThan : ∀ first second, lessThan (convert first) (convert second) = lessThan first second

namespace Renders

variable (renders : Renders convert)
include renders

theorem ofCount (count : Nat) : convert (Scalar.ofCount count) = Scalar.ofCount count :=
  renders.ofInt count

theorem div_ofCount (number : First) {count : Nat} (positive : count ≠ 0) :
    convert (number / Scalar.ofCount count) = convert number / Scalar.ofCount count :=
  renders.div number count (Int.natCast_ne_zero.2 positive)

theorem greater (first second : First) :
    convert (Scalar.greater first second) = Scalar.greater (convert first) (convert second) := by
  simp only [Scalar.greater, renders.lessThan]
  split <;> rfl

theorem smaller (first second : First) :
    convert (Scalar.smaller first second) = Scalar.smaller (convert first) (convert second) := by
  simp only [Scalar.smaller, renders.lessThan]
  split <;> rfl

theorem clamp (score : First) : convert (Scalar.clamp score) = Scalar.clamp (convert score) := by
  simp only [Scalar.clamp, renders.greater, renders.smaller, renders.ofInt]

theorem total (numbers : List First) :
    convert (Scalar.total numbers) = Scalar.total (numbers.map convert) := by
  have carried : ∀ start : First, convert (numbers.foldl (· + ·) start) =
      (numbers.map convert).foldl (· + ·) (convert start) := by
    induction numbers with
    | nil => exact fun _ => rfl
    | cons number rest ih =>
        intro start
        rw [List.foldl_cons, ih, renders.add]
        rfl
  rw [Scalar.total, carried, renders.ofInt]
  rfl

/-- A mean divides by a length that is not zero. -/
theorem mean (numbers : List First) :
    convert (Scalar.mean numbers) = Scalar.mean (numbers.map convert) := by
  simp only [Scalar.mean, List.isEmpty_map, List.length_map]
  split
  · exact renders.ofInt 100
  · next some =>
      rw [renders.div_ofCount _ fun none =>
          some (List.isEmpty_iff.2 (List.length_eq_zero_iff.1 none)),
        renders.total]

theorem penalized (penalty : First) :
    convert (penalized penalty) = Triage.penalized (convert penalty) := by
  simp only [Triage.penalized, renders.greater, renders.sub, renders.ofInt]

theorem gradeFor (score : First) : gradeFor (convert score) = Triage.gradeFor score := by
  simp only [Triage.gradeFor, ← renders.ofInt, renders.atMost]

end Renders

end Scalar

/-! ## The metrics are rendered -/

section Metrics

variable (renders : Scalar.Renders convert)
include renders

theorem complexityScore_map (branches lines : Nat) :
    convert (complexityScore branches lines) = complexityScore branches lines := by
  unfold complexityScore
  split
  · exact renders.ofInt 100
  · next some =>
      simp only [renders.clamp, renders.sub, renders.mul, renders.greater, renders.ofInt,
        renders.div_ofCount _ some, renders.ofCount, Scalar.ofRatio, renders.div _ 2 (by decide)]

theorem errorDensity_map (diagnostics : List Diagnostic) (fileCount : Nat) :
    convert (errorDensity diagnostics fileCount) = errorDensity diagnostics fileCount := by
  unfold errorDensity
  simp only
  split
  · exact renders.ofInt 0
  · next some => rw [renders.clamp, renders.div_ofCount _ some, renders.ofCount]

theorem codeHealthWith_map (weights : Weights First) (diagnostics : List Diagnostic)
    (fileCount : Nat) (complexity : First) (unreadableFiles : List String) :
    codeHealthWith (weights.map convert) diagnostics fileCount (convert complexity)
        unreadableFiles =
      (codeHealthWith weights diagnostics fileCount complexity unreadableFiles).map convert := by
  simp only [codeHealthWith, CodeHealth.map, Weights.map, renders.mean, renders.penalized,
    renders.mul, renders.ofCount, errorDensity_map renders, renders.sub, renders.ofInt,
    List.map_cons, List.map_nil]

theorem codeHealth_map (disk : Disk) (tree : SourceTree) (settings : QualitySettings First)
    (diagnostics : List Diagnostic) :
    codeHealth disk tree (settings.map convert) diagnostics =
      (codeHealth disk tree settings diagnostics).map convert := by
  unfold codeHealth
  cases given : settings.complexity with
  | some complexity =>
      simp only [QualitySettings.map, given, Option.map_some]
      exact codeHealthWith_map renders ..
  | none =>
      simp only [QualitySettings.map, given, Option.map_none]
      rw [← codeHealthWith_map renders]
      simp only [estimateComplexity, complexityOf, complexityScore_map renders]

/-- The score of a subsystem divides by the number of its files, unless there are none. -/
theorem subsystemScore_map (weights : Weights First) (subsystem : Subsystem First)
    (diagnostics : List Diagnostic) (fileCount : Nat) :
    subsystemScore (weights.map convert) (subsystem.map convert) diagnostics fileCount =
      convert (subsystemScore weights subsystem diagnostics fileCount) := by
  unfold subsystemScore
  split
  · rfl
  · next some =>
      rw [renders.penalized, renders.div_ofCount _ some, renders.mul, renders.ofCount]
      rfl

omit [Scalar First] [Scalar Second] renders in
theorem mapEntries_ofList {Key : Type} [BEq Key] (pairs : List (Key × First)) :
    OrderedMap.ofList (pairs.map fun pair => (pair.1, convert pair.2)) =
      (OrderedMap.ofList pairs).mapEntries convert := by
  have side : List.Forall₂ (fun left right => left.1 = right.1 ∧ convert left.2 = right.2) pairs
      (pairs.map fun pair => (pair.1, convert pair.2)) :=
    List.forall₂_map_right_iff.2 (List.forall₂_same.2 fun _ _ => ⟨rfl, rfl⟩)
  refine congrArg OrderedMap.mk ?_
  rw [eq_comm, ← List.forall₂_eq_eq_eq, List.forall₂_map_left_iff]
  refine (OrderedMap.forall₂_ofList (fun entry other => convert entry = other) side).imp
    fun _ _ both => ?_
  exact Prod.ext both.1 both.2

omit [Scalar First] [Scalar Second] renders in
theorem find?_mapEntries {Key : Type} [BEq Key] (table : OrderedMap Key First) (key : Key) :
    (table.mapEntries convert).find? key = (table.find? key).map convert := by
  obtain ⟨bindings⟩ := table
  induction bindings with
  | nil => rfl
  | cons binding rest ih =>
      obtain ⟨known, entry⟩ := binding
      change (if known == key then some (convert entry) else _) =
        Option.map convert (if known == key then some entry else _)
      split
      · rfl
      · exact ih

theorem domainHealthWith_map (weights : Weights First) (diagnostics : List Diagnostic)
    (subsystems : List (Subsystem First × Nat)) :
    domainHealthWith (weights.map convert) diagnostics
        (subsystems.map fun entry => (entry.1.map convert, entry.2)) =
      (domainHealthWith weights diagnostics subsystems).map convert := by
  have scores : (subsystems.map fun entry => (entry.1.map convert, entry.2)).map (fun entry =>
        (entry.1.name, subsystemScore (weights.map convert) entry.1 diagnostics entry.2)) =
      (subsystems.map fun entry =>
        (entry.1.name, subsystemScore weights entry.1 diagnostics entry.2)).map fun pair =>
          (pair.1, convert pair.2) := by
    simp only [List.map_map]
    refine List.map_congr_left fun entry _ => ?_
    simp only [Function.comp_apply, subsystemScore_map renders]
    rfl
  have values (table : OrderedMap Value First) :
      (table.mapEntries convert).values = table.values.map convert := by
    simp only [OrderedMap.values, OrderedMap.mapEntries, List.map_map]
    rfl
  unfold domainHealthWith DomainHealth.map
  simp only
  rw [scores, mapEntries_ofList, values, renders.mean, List.filter_map, List.map_map]
  rfl

theorem domainHealth_map (disk : Disk) (tree : SourceTree) (weights : Weights First)
    (subsystems : List (Subsystem First)) (diagnostics : List Diagnostic) :
    domainHealth disk tree (weights.map convert) (subsystems.map (Subsystem.map convert))
        diagnostics =
      (domainHealth disk tree weights subsystems diagnostics).map convert := by
  rw [domainHealth, domainHealth, ← domainHealthWith_map renders, List.map_map, List.map_map]
  rfl

theorem securityAssessment_map (weights : Weights First) (profile : Profile)
    (diagnostics : List Diagnostic) (patterns : List ErrorPattern) :
    securityAssessment (weights.map convert) profile diagnostics patterns =
      (securityAssessment weights profile diagnostics patterns).map convert := by
  simp only [securityAssessment, SecurityAssessment.map, Weights.map, renders.penalized,
    renders.mul, renders.ofCount, ← renders.gradeFor]

theorem qualityTrend_map (tolerance score : First) (previous : Option First) :
    qualityTrend (convert tolerance) (convert score) (previous.map convert) =
      qualityTrend tolerance score previous := by
  cases previous with
  | none => rfl
  | some previous =>
      simp only [qualityTrend, Option.map_some, ← renders.add, ← renders.sub, renders.lessThan]

theorem overallScore_map (weights : Weights First) (previous : Option First)
    (code : CodeHealth First) (domain : DomainHealth First)
    (security : SecurityAssessment First) :
    overallScore (weights.map convert) (previous.map convert) (code.map convert)
        (domain.map convert) (security.map convert) =
      (overallScore weights previous code domain security).map convert := by
  simp only [overallScore, OverallScore.map, Weights.map, CodeHealth.map, DomainHealth.map,
    SecurityAssessment.map, CodeHealth.composite, ← renders.add, ← renders.mul,
    ← renders.div _ 2 (by decide), renders.gradeFor, qualityTrend_map renders]

theorem codeRecommendations_map (code : CodeHealth First) :
    codeRecommendations (code.map convert) = codeRecommendations code := by
  simp only [codeRecommendations, CodeHealth.map, ← renders.ofInt, renders.lessThan]

theorem isUnhealthy_map (domain : DomainHealth First) (subsystem : Subsystem First) :
    isUnhealthy (domain.map convert) (subsystem.map convert) = isUnhealthy domain subsystem := by
  simp only [isUnhealthy, DomainHealth.map, Subsystem.map, find?_mapEntries, Option.any_map]
  congr 2
  funext score
  exact renders.lessThan _ _

theorem domainRecommendations_map (domain : DomainHealth First)
    (subsystems : List (Subsystem First)) :
    domainRecommendations (domain.map convert) (subsystems.map (Subsystem.map convert)) =
      domainRecommendations domain subsystems := by
  have each (subsystem : Subsystem First) :
      subsystemRecommendation (domain.map convert) (subsystem.map convert) =
        subsystemRecommendation domain subsystem := by
    simp only [subsystemRecommendation, isUnhealthy_map renders]
    rfl
  have aggregate : Scalar.lessThan (domain.map convert).aggregate (Scalar.ofInt 80) =
      Scalar.lessThan domain.aggregate (Scalar.ofInt 80) := by
    rw [← renders.ofInt]
    exact renders.lessThan _ _
  simp only [domainRecommendations, List.flatMap_map, each, aggregate]
  rfl

theorem securityRecommendations_map (security : SecurityAssessment First) :
    securityRecommendations (security.map convert) = securityRecommendations security := by
  have score : Scalar.lessThan (security.map convert).score (Scalar.ofInt 70) =
      Scalar.lessThan security.score (Scalar.ofInt 70) := by
    rw [← renders.ofInt]
    exact renders.lessThan _ _
  simp only [securityRecommendations, score]
  rfl

/-- **The metrics are rendered** by every map that renders the operations.  Recommendations only
compare scores, so they are the same in both kinds of number. -/
theorem measureQuality_map (disk : Disk) (scope : QualityScope First)
    (diagnostics : List Diagnostic) (patterns : List ErrorPattern) :
    measureQuality disk (scope.map convert) diagnostics patterns =
      (measureQuality disk scope diagnostics patterns).map convert := by
  have code : codeHealth disk (scope.map convert).tree (scope.map convert).settings diagnostics =
      (codeHealth disk scope.tree scope.settings diagnostics).map convert :=
    codeHealth_map renders ..
  have domain : domainHealth disk (scope.map convert).tree (scope.map convert).settings.weights
        (scope.map convert).subsystems diagnostics =
      (domainHealth disk scope.tree scope.settings.weights scope.subsystems diagnostics).map
        convert :=
    domainHealth_map renders ..
  have security : securityAssessment (scope.map convert).settings.weights
        (scope.map convert).profile diagnostics patterns =
      (securityAssessment scope.settings.weights scope.profile diagnostics patterns).map convert :=
    securityAssessment_map renders ..
  unfold measureQuality QualityMetrics.map
  simp only
  rw [code, domain, security]
  refine congr (congrArg _ (overallScore_map renders ..)) ?_
  simp only [qualityRecommendations, codeRecommendations_map renders,
    securityRecommendations_map renders]
  rw [← domainRecommendations_map renders]
  rfl

end Metrics

/-! ## Guarded numbers -/

/-- A rational number, or the place of one that was lost. -/
structure Guarded where
  number : Option Rat
deriving DecidableEq

namespace Guarded

/-- A rational number, which is not lost. -/
def of (number : Rat) : Guarded := ⟨some number⟩

/-- A number that was lost. -/
def lost : Guarded := ⟨none⟩

/-- What is computed from two numbers; it is lost when one of them is. -/
def fromBoth (compute : Rat → Rat → Option Rat) (first second : Guarded) : Guarded :=
  ⟨do compute (← first.number) (← second.number)⟩

/-- A comparison of two numbers.  A lost number passes every comparison, so that a choice
between it and a bound takes it. -/
def compares (compare : Rat → Rat → Bool) : Guarded → Guarded → Bool
  | ⟨some first⟩, ⟨some second⟩ => compare first second
  | _, _ => true

/-- The operations of rational numbers, but a quotient by zero is lost. -/
instance : Scalar Guarded where
  add := fromBoth fun first second => some (first + second)
  sub := fromBoth fun first second => some (first - second)
  mul := fromBoth fun first second => some (first * second)
  div := fromBoth fun first second => if second = 0 then none else some (first / second)
  ofInt number := of number
  atMost := compares Scalar.atMost
  lessThan := compares Scalar.lessThan

theorem lost_div (divisor : Guarded) : lost / divisor = lost := rfl

theorem lost_add (number : Guarded) : lost + number = lost := rfl

theorem add_lost (number : Guarded) : number + lost = lost := by
  cases number with
  | mk number => cases number <;> rfl

theorem sub_lost (number : Guarded) : number - lost = lost := by
  cases number with
  | mk number => cases number <;> rfl

theorem clamp_lost : Scalar.clamp lost = lost := rfl

theorem penalized_lost : penalized lost = lost := by
  rw [penalized, sub_lost]
  rfl

/-- The mean of numbers is lost when one of them is. -/
theorem mean_of_lost_mem {numbers : List Guarded} (member : lost ∈ numbers) :
    Scalar.mean numbers = lost := by
  have stays : ∀ rest : List Guarded, rest.foldl (· + ·) lost = lost := by
    intro rest
    induction rest with
    | nil => rfl
    | cons number rest ih => rwa [List.foldl_cons, lost_add]
  have some : numbers.isEmpty = false := List.isEmpty_eq_false_iff_exists_mem.2 ⟨lost, member⟩
  obtain ⟨front, behind, rfl⟩ := List.append_of_mem member
  rw [Scalar.mean, some, if_neg Bool.false_ne_true, Scalar.total, List.foldl_append,
    List.foldl_cons, add_lost, stays, lost_div]

/-- **Guarding renders the operations**: it loses quotients by zero, and a map that renders need
not respect those. -/
theorem renders_of : Scalar.Renders of where
  ofInt _ := rfl
  add _ _ := rfl
  sub _ _ := rfl
  mul _ _ := rfl
  div number divisor nonzero := by
    have rational : (divisor : Rat) ≠ 0 := Int.cast_ne_zero.2 nonzero
    change Guarded.mk _ = Guarded.mk (if (divisor : Rat) = 0 then none else _)
    rw [if_neg rational]
    rfl
  atMost _ _ := rfl
  lessThan _ _ := rfl

end Guarded

end Triage
