import Triage.Proofs.Quality.Division

/-!
# Scores stay on their scale

Scores lie between zero and one hundred.  A figure that is cut to the scale lies on it, what a
penalty leaves of a hundred does too, and so does the mean of figures on the scale
(`onScale_clamp`, `onScale_penalized`, `onScale_mean`).  Every score of the metrics is made in
one of these ways; only the overall score is weighed, and weights that add up to one keep it on
the scale (`onScale_weighted`).

`measureQuality_stays_on_scale` puts these together for all source trees, diagnostics and
patterns.  That no score is divided by zero on its way is part of it: the metrics in guarded
numbers, in which a quotient by zero is lost, are those in rational numbers.
-/

namespace Triage

set_option autoImplicit false

/-! ## Figures on the scale -/

/-- A score from zero to one hundred. -/
def OnScale (score : Rat) : Prop := 0 ≤ score ∧ score ≤ 100

theorem onScale_clamp (score : Rat) : OnScale (Scalar.clamp score) := by
  rw [Scalar.clamp_rat]
  exact ⟨le_max_left _ _, max_le (by norm_num) (min_le_left _ _)⟩

/-- What a penalty leaves of a hundred. -/
theorem onScale_penalized {penalty : Rat} (paid : 0 ≤ penalty) : OnScale (penalized penalty) := by
  rw [penalized_rat]
  exact ⟨le_max_left _ _, max_le (by norm_num) (sub_le_self 100 paid)⟩

/-- What a score leaves of a hundred. -/
theorem OnScale.rest {score : Rat} (scaled : OnScale score) : OnScale (100 - score) :=
  ⟨sub_nonneg.2 scaled.2, sub_le_self 100 scaled.1⟩

/-- The mean of scores; without any it is a hundred. -/
theorem onScale_mean {numbers : List Rat} (each : ∀ number ∈ numbers, OnScale number) :
    OnScale (Scalar.mean numbers) := by
  rw [Scalar.mean_rat]
  split
  · exact ⟨by norm_num, le_rfl⟩
  · next some =>
      have length : (0 : Rat) < numbers.length :=
        Nat.cast_pos.2 (List.length_pos_iff.2 some)
      have low : 0 ≤ numbers.sum := List.sum_nonneg fun number member => (each number member).1
      have high : numbers.sum ≤ numbers.length • (100 : Rat) :=
        List.sum_le_card_nsmul _ _ fun number member => (each number member).2
      rw [nsmul_eq_mul, mul_comm] at high
      exact ⟨div_nonneg low length.le, (div_le_iff₀ length).2 high⟩

/-- A weighed sum of scores, where the weights add up to one. -/
theorem onScale_weighted {first second third left middle right : Rat} (first_paid : 0 ≤ first)
    (second_paid : 0 ≤ second) (third_paid : 0 ≤ third) (sum : first + second + third = 1)
    (left_scaled : OnScale left) (middle_scaled : OnScale middle) (right_scaled : OnScale right) :
    OnScale (first * left + second * middle + third * right) := by
  constructor
  · exact add_nonneg (add_nonneg (mul_nonneg first_paid left_scaled.1)
      (mul_nonneg second_paid middle_scaled.1)) (mul_nonneg third_paid right_scaled.1)
  · calc first * left + second * middle + third * right
        ≤ first * 100 + second * 100 + third * 100 :=
          add_le_add (add_le_add (mul_le_mul_of_nonneg_left left_scaled.2 first_paid)
            (mul_le_mul_of_nonneg_left middle_scaled.2 second_paid))
            (mul_le_mul_of_nonneg_left right_scaled.2 third_paid)
      _ = 100 := by rw [← add_mul, ← add_mul, sum, one_mul]

/-! ## Weights that keep to the scale -/

/-- Weights that add up to one, penalties that take nothing back, and a neutral score on the
scale. -/
structure Weights.Balanced (weights : Weights Rat) : Prop extends weights.NonNegative where
  sum : weights.code + weights.domain + weights.security = 1
  neutral : OnScale weights.neutralSubsystemScore

theorem Weights.balanced_standard : (Weights.standard : Weights Rat).Balanced :=
  ⟨Weights.nonNegative_standard, by decide +kernel, by decide +kernel, by decide +kernel⟩

/-! ## The metrics -/

theorem onScale_complexityScore (branches lines : Nat) :
    OnScale (complexityScore branches lines : Rat) := by
  unfold complexityScore
  split
  · exact ⟨by decide +kernel, le_rfl⟩
  · exact onScale_clamp _

theorem onScale_errorDensity (diagnostics : List Diagnostic) (fileCount : Nat) :
    OnScale (errorDensity diagnostics fileCount : Rat) := by
  unfold errorDensity
  simp only
  split
  · exact ⟨le_rfl, by decide +kernel⟩
  · exact onScale_clamp _

/-- What a penalty for every one of a number of things leaves of a hundred. -/
theorem onScale_penalized_ofCount {penalty : Rat} (paid : 0 ≤ penalty) (count : Nat) :
    OnScale (penalized (penalty * Scalar.ofCount count)) := by
  rw [Scalar.ofCount_rat]
  exact onScale_penalized (mul_nonneg paid (Nat.cast_nonneg count))

theorem onScale_subsystemScore {weights : Weights Rat} (balanced : weights.Balanced)
    (subsystem : Subsystem Rat) (diagnostics : List Diagnostic) (fileCount : Nat) :
    OnScale (subsystemScore weights subsystem diagnostics fileCount) := by
  unfold subsystemScore
  split
  · exact balanced.neutral
  · rw [Scalar.ofCount_rat, Scalar.ofCount_rat]
    exact onScale_penalized (div_nonneg
      (mul_nonneg balanced.subsystemErrorPenalty (Nat.cast_nonneg _)) (Nat.cast_nonneg _))

/-- The health of the code lies on the scale, every figure of it. -/
structure CodeHealth.Scaled (health : CodeHealth Rat) : Prop where
  typeSafety : OnScale health.typeSafety
  errorDensity : OnScale health.errorDensity
  complexity : OnScale health.complexity
  maintainability : OnScale health.maintainability

theorem scaled_codeHealthWith {weights : Weights Rat} (balanced : weights.Balanced)
    (diagnostics : List Diagnostic) (fileCount : Nat) {complexity : Rat}
    (scaled : OnScale complexity) (unreadableFiles : List String) :
    (codeHealthWith weights diagnostics fileCount complexity unreadableFiles).Scaled := by
  have typeSafety := onScale_penalized_ofCount balanced.typeErrorPenalty
    (categoryCount .typing diagnostics)
  have density := onScale_errorDensity diagnostics fileCount
  refine ⟨typeSafety, density, scaled, onScale_mean fun number member => ?_⟩
  simp only [List.mem_cons, List.not_mem_nil, or_false] at member
  obtain rfl | rfl | rfl := member
  · exact typeSafety
  · exact density.rest
  · exact scaled

theorem scaled_codeHealth {settings : QualitySettings Rat} (balanced : settings.weights.Balanced)
    (scaled : ∀ complexity, settings.complexity = some complexity → OnScale complexity)
    (disk : Disk) (tree : SourceTree) (diagnostics : List Diagnostic) :
    (codeHealth disk tree settings diagnostics).Scaled := by
  unfold codeHealth
  cases given : settings.complexity with
  | some complexity => exact scaled_codeHealthWith balanced _ _ (scaled complexity given) _
  | none => exact scaled_codeHealthWith balanced _ _ (onScale_complexityScore _ _) _

/-- The health of the subsystems lies on the scale, every score of it. -/
structure DomainHealth.Scaled (health : DomainHealth Rat) : Prop where
  subsystems : ∀ score ∈ health.subsystems.values, OnScale score
  aggregate : OnScale health.aggregate

theorem scaled_domainHealthWith {weights : Weights Rat} (balanced : weights.Balanced)
    (diagnostics : List Diagnostic) (subsystems : List (Subsystem Rat × Nat)) :
    (domainHealthWith weights diagnostics subsystems).Scaled := by
  have scores : ∀ score ∈ (domainHealthWith weights diagnostics subsystems).subsystems.values,
      OnScale score := by
    refine OrderedMap.forall_mem_values_ofList fun pair member => ?_
    obtain ⟨entry, _, rfl⟩ := List.mem_map.1 member
    exact onScale_subsystemScore balanced _ _ _
  exact ⟨scores, onScale_mean scores⟩

/-- Metrics of which every score lies on the scale. -/
structure QualityMetrics.Scaled (metrics : QualityMetrics Rat) : Prop where
  code : metrics.code.Scaled
  domain : metrics.domain.Scaled
  security : OnScale metrics.security.score
  overall : OnScale metrics.overall.score

theorem scaled_measureQuality {scope : QualityScope Rat}
    (balanced : scope.settings.weights.Balanced)
    (scaled : ∀ complexity, scope.settings.complexity = some complexity → OnScale complexity)
    (disk : Disk) (diagnostics : List Diagnostic) (patterns : List ErrorPattern) :
    (measureQuality disk scope diagnostics patterns).Scaled := by
  have code := scaled_codeHealth balanced scaled disk scope.tree diagnostics
  have domain : (domainHealth disk scope.tree scope.settings.weights scope.subsystems
      diagnostics).Scaled := scaled_domainHealthWith balanced _ _
  have security : OnScale (securityAssessment scope.settings.weights scope.profile diagnostics
      patterns).score := onScale_penalized_ofCount balanced.vulnerabilityPenalty _
  -- The figure of the code that is weighed is a mean of two.
  have composite : OnScale
      (codeHealth disk scope.tree scope.settings diagnostics).composite := by
    rw [CodeHealth.composite, Scalar.ofInt_rat]
    have safety := code.typeSafety
    have upkeep := code.maintainability
    exact ⟨div_nonneg (add_nonneg safety.1 upkeep.1) (by norm_num),
      (div_le_iff₀ (by norm_num)).2 (by push_cast; linarith [safety.2, upkeep.2])⟩
  exact ⟨code, domain, security, onScale_weighted balanced.code balanced.domain balanced.security
    balanced.sum composite domain.aggregate security⟩

/-- **Scores stay on their scale, and none is divided by zero on its way.** Subsystems that
share their name overwrite each other in the metrics, so their scores are told one by one. -/
theorem measureQuality_stays_on_scale (disk : Disk) (scope : QualityScope Rat)
    (diagnostics : List Diagnostic) (patterns : List ErrorPattern)
    (balanced : scope.settings.weights.Balanced)
    (scaled : ∀ complexity, scope.settings.complexity = some complexity → OnScale complexity) :
    (measureQuality disk scope diagnostics patterns).Scaled ∧
      measureQuality disk (scope.map Guarded.of) diagnostics patterns =
        (measureQuality disk scope diagnostics patterns).map Guarded.of ∧
      ∀ subsystem fileCount,
        OnScale (subsystemScore scope.settings.weights subsystem diagnostics fileCount) ∧
          subsystemScore (scope.settings.weights.map Guarded.of) (subsystem.map Guarded.of)
              diagnostics fileCount =
            .of (subsystemScore scope.settings.weights subsystem diagnostics fileCount) :=
  ⟨scaled_measureQuality balanced scaled disk diagnostics patterns,
    measureQuality_map Guarded.renders_of disk scope diagnostics patterns,
    fun subsystem fileCount =>
      ⟨onScale_subsystemScore balanced subsystem diagnostics fileCount,
        subsystemScore_map Guarded.renders_of _ subsystem diagnostics fileCount⟩⟩

/-- A source file that is listed, a subsystem that selects it, and a given complexity score. -/
def sampleScope : QualityScope Rat where
  tree := { SourceTree.openAt [] [] (.list []) with listing := some [["payments.ts"]] }
  settings := { QualitySettings.standard with complexity := some 80 }
  profile := {}
  subsystems := [.designate "payments" ["Payment"] .primary]
  previous := none

/-- Typing errors in more files than there are source files. -/
def sampleFindings : List Diagnostic :=
  ["payments.ts", "lib/index.ts"].map fun file =>
    { code := .int 2304, message := .text "Payment of type any", file := .text file
      line := .int 1, column := .int 2, severity := .error, category := .typing }

theorem measureQuality_sampleScope_stays_on_scale :
    sampleScope.settings.weights.Balanced ∧ sampleScope.settings.complexity = some 80 ∧
      (measureQuality .empty sampleScope sampleFindings []).Scaled ∧
      (measureQuality .empty (sampleScope.map Guarded.of) sampleFindings []).overall.score =
        .of 72 := by
  have balanced : sampleScope.settings.weights.Balanced := Weights.balanced_standard
  have given : sampleScope.settings.complexity = some 80 := rfl
  obtain ⟨scaled, rendered, _⟩ := measureQuality_stays_on_scale .empty sampleScope sampleFindings []
    balanced fun complexity found => by
      obtain rfl := Option.some.inj (given.symm.trans found)
      exact ⟨by norm_num, by norm_num⟩
  have score : (measureQuality .empty sampleScope sampleFindings []).overall.score = 72 := by
    decide +kernel
  refine ⟨balanced, given, scaled, ?_⟩
  rw [rendered]
  exact congrArg Guarded.of score

end Triage
