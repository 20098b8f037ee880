import Triage.Proofs.Quality.Worsening

/-!
# Bad scores are explained

A recommendation is made for every figure that is on the wrong side of its bound.  Turned round,
a run without urgent recommendations has all those figures on the right side of their bounds
(`Unremarkable`), whatever the complexity of the code is: it has no bound of its own.

With the standard weights that is enough for a score of 74, even where the complexity score is
zero (`Unremarkable.score_ge`), and no more than enough.  So a lower score is always explained by
an urgent recommendation, and with it every score that is graded with one of the two last letters
(`measureQuality_explains`).
-/

namespace Triage

set_option autoImplicit false

/-- The priority of a recommendation is not low. -/
def QualityRecommendation.IsUrgent (recommendation : QualityRecommendation) : Prop :=
  recommendation.priority = .high ∨ recommendation.priority = .medium

/-! ## Without recommendations -/

/-- Figures none of which is worth an urgent recommendation. -/
structure Unremarkable (code : CodeHealth Rat) (domain : DomainHealth Rat)
    (security : SecurityAssessment Rat) : Prop where
  typeSafety : 80 ≤ code.typeSafety
  errorDensity : code.errorDensity ≤ 20
  aggregate : 80 ≤ domain.aggregate
  security : 70 ≤ security.score

variable {subsystems : List (Subsystem Rat)} {code : CodeHealth Rat} {domain : DomainHealth Rat}
  {security : SecurityAssessment Rat}

/-- The recommendations are those of the three areas, in another order. -/
theorem mem_qualityRecommendations {recommendation : QualityRecommendation} :
    recommendation ∈ qualityRecommendations subsystems code domain security ↔
      recommendation ∈ codeRecommendations code ∨
        recommendation ∈ domainRecommendations domain subsystems ∨
        recommendation ∈ securityRecommendations security := by
  rw [qualityRecommendations, List.mem_mergeSort, List.mem_append, List.mem_append, or_assoc]

/-- A list that holds one recommendation when a comparison passes, and nothing else, shows that
it does not pass. -/
theorem not_passed_of_forall_not_urgent {passed : Bool} {recommendation : QualityRecommendation}
    (urgent : recommendation.IsUrgent)
    (silent : ∀ other ∈ (if passed then [recommendation] else []), ¬ other.IsUrgent) :
    ¬ passed = true := by
  rintro rfl
  exact silent recommendation (List.mem_singleton.2 rfl) urgent

/-- **Who has nothing urgent to recommend has seen nothing remarkable.** -/
theorem unremarkable_of_forall_not_urgent
    (silent : ∀ recommendation ∈ qualityRecommendations subsystems code domain security,
      ¬ recommendation.IsUrgent) : Unremarkable code domain security := by
  have ofCode : ∀ recommendation ∈ codeRecommendations code, ¬ recommendation.IsUrgent :=
    fun recommendation member => silent _ (mem_qualityRecommendations.2 (.inl member))
  have ofDomain : ∀ recommendation ∈ domainRecommendations domain subsystems,
      ¬ recommendation.IsUrgent :=
    fun recommendation member => silent _ (mem_qualityRecommendations.2 (.inr (.inl member)))
  have ofSecurity : ∀ recommendation ∈ securityRecommendations security,
      ¬ recommendation.IsUrgent :=
    fun recommendation member => silent _ (mem_qualityRecommendations.2 (.inr (.inr member)))
  simp only [codeRecommendations, domainRecommendations, securityRecommendations,
    List.forall_mem_append] at ofCode ofDomain ofSecurity
  have typeSafety := not_passed_of_forall_not_urgent (.inl rfl) ofCode.1
  have density := not_passed_of_forall_not_urgent (.inr rfl) ofCode.2
  have aggregate := not_passed_of_forall_not_urgent (.inl rfl) ofDomain.2
  have score := not_passed_of_forall_not_urgent (.inl rfl) ofSecurity.1
  rw [Scalar.lessThan_rat, not_lt] at typeSafety density aggregate score
  exact ⟨typeSafety, density, aggregate, score⟩

/-! ## The score of what is unremarkable -/

/-- The estimate of the complexity is not negative, so the complexity score is not when a given
one is not. -/
theorem complexity_codeHealth_nonneg {settings : QualitySettings Rat}
    (given : ∀ complexity, settings.complexity = some complexity → 0 ≤ complexity)
    (disk : Disk) (tree : SourceTree) (diagnostics : List Diagnostic) :
    0 ≤ (codeHealth disk tree settings diagnostics).complexity := by
  unfold codeHealth
  cases found : settings.complexity with
  | some complexity => exact given complexity found
  | none => exact (onScale_complexityScore _ _).1

/-- The maintainability is the mean of three figures. -/
theorem maintainability_codeHealth (disk : Disk) (tree : SourceTree)
    (settings : QualitySettings Rat) (diagnostics : List Diagnostic) :
    (codeHealth disk tree settings diagnostics).maintainability =
      ((codeHealth disk tree settings diagnostics).typeSafety +
        (100 - (codeHealth disk tree settings diagnostics).errorDensity) +
        (codeHealth disk tree settings diagnostics).complexity) / 3 := by
  rw [← Scalar.mean_three]
  unfold codeHealth
  cases settings.complexity with
  | some complexity => rfl
  | none => rfl

/-- What is unremarkable scores at least 74 with the standard weights. -/
theorem Unremarkable.score_ge (unremarkable : Unremarkable code domain security)
    (maintainability : code.maintainability =
      (code.typeSafety + (100 - code.errorDensity) + code.complexity) / 3)
    (complexity : 0 ≤ code.complexity) (previous : Option Rat) :
    74 ≤ (overallScore .standard previous code domain security).score := by
  have typeSafety := unremarkable.typeSafety
  have aggregate := unremarkable.aggregate
  have score := unremarkable.security
  have upkeep : 160 / 3 ≤ code.maintainability := by
    rw [maintainability]
    linarith [unremarkable.errorDensity]
  change 74 ≤ (3 : Int) / (10 : Int) * ((code.typeSafety + code.maintainability) / (2 : Int)) +
    (1 : Int) / (2 : Int) * domain.aggregate + (1 : Int) / (5 : Int) * security.score
  calc (74 : Rat) = 3 / 10 * ((80 + 160 / 3) / 2) + 1 / 2 * 80 + 1 / 5 * 70 := by norm_num
    _ ≤ 3 / 10 * ((code.typeSafety + code.maintainability) / 2) + 1 / 2 * domain.aggregate +
        1 / 5 * security.score := by linarith
    _ = _ := by norm_num

/-- The bound is attained, by code of the greatest complexity. -/
example :
    (overallScore .standard none (⟨80, 20, 0, 160 / 3, []⟩ : CodeHealth Rat) ⟨.empty, 80, []⟩
      ⟨70, 10, "C", []⟩).score = 74 := by decide +kernel

/-- The two last letters are for scores below seventy. -/
theorem score_lt_of_gradeFor {score : Rat} (bad : gradeFor score = "D" ∨ gradeFor score = "F") :
    score < 70 := by
  by_contra reached
  have best : gradePlace (gradeFor score) ≤ 2 :=
    gradePlace_le (not_lt.1 reached)
  obtain bad | bad := bad <;> rw [bad] at best <;> exact absurd best (by decide)

/-- **A bad score is always explained.** With the standard weights, a score below 74 comes with
an urgent recommendation, and so does every score with one of the two last letters. -/
theorem measureQuality_explains (disk : Disk) (scope : QualityScope Rat)
    (diagnostics : List Diagnostic) (patterns : List ErrorPattern)
    (standard : scope.settings.weights = .standard)
    (scaled : ∀ complexity, scope.settings.complexity = some complexity → OnScale complexity) :
    ((measureQuality disk scope diagnostics patterns).overall.score < 74 →
        ∃ recommendation ∈ (measureQuality disk scope diagnostics patterns).recommendations,
          recommendation.IsUrgent) ∧
      ((measureQuality disk scope diagnostics patterns).overall.grade = "D" ∨
          (measureQuality disk scope diagnostics patterns).overall.grade = "F" →
        ∃ recommendation ∈ (measureQuality disk scope diagnostics patterns).recommendations,
          recommendation.IsUrgent) := by
  have explained : (measureQuality disk scope diagnostics patterns).overall.score < 74 →
      ∃ recommendation ∈ (measureQuality disk scope diagnostics patterns).recommendations,
        recommendation.IsUrgent := by
    intro low
    by_contra silent
    push Not at silent
    have unremarkable := unremarkable_of_forall_not_urgent silent
    have high := unremarkable.score_ge (maintainability_codeHealth ..)
      (complexity_codeHealth_nonneg (fun complexity given => (scaled complexity given).1) ..)
      scope.previous
    rw [← standard] at high
    exact absurd low (not_lt.2 high)
  exact ⟨explained, fun bad => explained ((score_lt_of_gradeFor bad).trans (by norm_num))⟩

theorem measureQuality_sampleScope_explained :
    sampleScope.settings.weights = .standard ∧ sampleScope.settings.complexity = some 80 ∧
      (measureQuality .empty sampleScope (sampleFindings ++ sampleFindings)
        []).overall.score = 50 ∧
      (measureQuality .empty sampleScope (sampleFindings ++ sampleFindings)
        []).overall.grade = "F" ∧
      ∃ recommendation ∈ (measureQuality .empty sampleScope (sampleFindings ++ sampleFindings)
        []).recommendations, recommendation.IsUrgent := by
  have given : sampleScope.settings.complexity = some 80 := rfl
  have score : (measureQuality .empty sampleScope (sampleFindings ++ sampleFindings)
      []).overall.score = 50 := by decide +kernel
  have grade : (measureQuality .empty sampleScope (sampleFindings ++ sampleFindings)
      []).overall.grade = "F" := by decide +kernel
  have explained := measureQuality_explains .empty sampleScope (sampleFindings ++ sampleFindings)
    [] rfl fun complexity found => by
      obtain rfl := Option.some.inj (given.symm.trans found)
      exact ⟨by norm_num, by norm_num⟩
  exact ⟨rfl, given, score, grade, explained.1 (score ▸ by norm_num)⟩

end Triage
