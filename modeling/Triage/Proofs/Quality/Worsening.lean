import Triage.Proofs.Pattern.Gathering
import Triage.Proofs.Quality.Scale

/-!
# More diagnostics never improve a score

Scores look at diagnostics through counts: how many have a category, how many mention a
permissive type, how many concern a subsystem, and how many files they are in.  With further
diagnostics none of these counts falls, in whatever order they come, and a reordering changes
none (`fileCount_le`, `hits_le`, `hits_eq`).

From the counts on it is a matter of signs.  Everything that is counted is a penalty, and what is
left of a hundred falls with it; means and weighed sums go along with what they are made of, and
a grade never rises while its score falls (`gradePlace_le`).  `measureQuality_never_improves`
says so of all figures of the metrics at once.
-/

namespace Triage

set_option autoImplicit false

/-! ## Counts -/

variable {fewer more : List Diagnostic}

/-- The files of more diagnostics are not fewer.  Files are told apart by what they stand for,
which need not be how they are written. -/
theorem fileCount_le (further : fewer ⊆ more) :
    (fewer.map Diagnostic.file).eraseDups.length ≤
      (more.map Diagnostic.file).eraseDups.length := by
  have told (first second : Value) :
      (first == second) = (first.identity == second.identity) := by
    rw [Bool.eq_iff_iff, Value.beq_iff, beq_iff_eq]
  have counted (diagnostics : List Diagnostic) :
      (diagnostics.map Diagnostic.file).eraseDups.length =
        ((diagnostics.map Diagnostic.file).map Value.identity).eraseDups.length := by
    rw [← map_eraseDups told, List.length_map]
  rw [counted, counted]
  exact (subperm_eraseDups (List.map_subset _ (List.map_subset _ further))).length_le

theorem categoryCount_le (further : fewer.Subperm more) (category : Category) :
    categoryCount category fewer ≤ categoryCount category more :=
  further.countP_le _

theorem hits_le (further : fewer.Subperm more) (markers : List Value) :
    Marker.hits markers (fewer.map Diagnostic.message) ≤
      Marker.hits markers (more.map Diagnostic.message) := by
  simp only [Marker.hits, ← List.sum_eq_foldl, List.countP_map]
  exact List.sum_le_sum fun marker _ => further.countP_le _

theorem hits_eq (reordered : fewer.Perm more) (markers : List Value) :
    Marker.hits markers (fewer.map Diagnostic.message) =
      Marker.hits markers (more.map Diagnostic.message) :=
  le_antisymm (hits_le reordered.subperm markers) (hits_le reordered.symm.subperm markers)

theorem fileCount_eq (reordered : fewer.Perm more) :
    (fewer.map Diagnostic.file).eraseDups.length =
      (more.map Diagnostic.file).eraseDups.length :=
  le_antisymm (fileCount_le reordered.subset) (fileCount_le reordered.symm.subset)

/-! ## Grades -/

/-- The grades, from the best to the worst. -/
def gradeLetters : List String := ["A", "B", "C", "D", "F"]

/-- How far a grade is from the best one. -/
def gradePlace (grade : String) : Nat := gradeLetters.idxOf grade

/-- A grade is as far from the best one as there are bounds that the score does not reach. -/
theorem gradePlace_gradeFor (score : Rat) :
    gradePlace (gradeFor score) =
      [90, 80, 70, 60].countP fun bound : Rat => decide (score < bound) := by
  have places : gradePlace "A" = 0 ∧ gradePlace "B" = 1 ∧ gradePlace "C" = 2 ∧
      gradePlace "D" = 3 ∧ gradePlace "F" = 4 := by decide
  obtain ⟨first, second, third, fourth, fifth⟩ := places
  simp only [gradeFor, Scalar.atMost_rat, Scalar.ofInt_rat, List.countP_cons, List.countP_nil,
    decide_eq_true_eq, ← not_le]
  push_cast
  split_ifs <;> first | assumption | linarith

/-- A lower score has no better grade. -/
theorem gradePlace_le {low high : Rat} (below : low ≤ high) :
    gradePlace (gradeFor high) ≤ gradePlace (gradeFor low) := by
  rw [gradePlace_gradeFor, gradePlace_gradeFor]
  refine List.countP_mono_left fun bound _ missed => ?_
  rw [decide_eq_true_eq] at missed ⊢
  exact below.trans_lt missed

/-! ## Scores -/

variable {weights : Weights Rat}

/-- A penalty for every one of more things leaves less of a hundred. -/
theorem penalized_ofCount_le {penalty : Rat} (paid : 0 ≤ penalty) {few many : Nat}
    (counted : few ≤ many) :
    penalized (penalty * Scalar.ofCount many) ≤ penalized (penalty * Scalar.ofCount few) := by
  rw [Scalar.ofCount_rat, Scalar.ofCount_rat]
  exact penalized_le_penalized (mul_le_mul_of_nonneg_left (Nat.cast_le.2 counted) paid)

theorem errorDensity_le (further : fewer ⊆ more) (fileCount : Nat) :
    (errorDensity fewer fileCount : Rat) ≤ errorDensity more fileCount := by
  unfold errorDensity
  simp only
  split
  · exact le_rfl
  · rw [Scalar.ofCount_rat, Scalar.ofCount_rat, Scalar.ofCount_rat]
    exact Scalar.clamp_le_clamp (div_le_div_of_nonneg_right
      (Nat.cast_le.2 (Nat.mul_le_mul_left 100 (fileCount_le further))) (Nat.cast_nonneg _))

theorem subsystemScore_le (paid : weights.NonNegative) (further : fewer.Subperm more)
    (subsystem : Subsystem Rat) (fileCount : Nat) :
    subsystemScore weights subsystem more fileCount ≤
      subsystemScore weights subsystem fewer fileCount := by
  unfold subsystemScore
  split
  · exact le_rfl
  · rw [Scalar.ofCount_rat, Scalar.ofCount_rat, Scalar.ofCount_rat]
    exact penalized_le_penalized (div_le_div_of_nonneg_right
      (mul_le_mul_of_nonneg_left (Nat.cast_le.2 (concernCount_le_of_subperm further subsystem))
        paid.subsystemErrorPenalty) (Nat.cast_nonneg _))

/-- The health of the code is not better than another. -/
structure CodeHealth.NoBetter (health other : CodeHealth Rat) : Prop where
  typeSafety : health.typeSafety ≤ other.typeSafety
  errorDensity : other.errorDensity ≤ health.errorDensity
  complexity : health.complexity = other.complexity
  maintainability : health.maintainability ≤ other.maintainability

theorem noBetter_codeHealthWith (paid : weights.NonNegative) (further : fewer.Subperm more)
    (fileCount : Nat) (complexity : Rat) (unreadableFiles : List String) :
    (codeHealthWith weights more fileCount complexity unreadableFiles).NoBetter
      (codeHealthWith weights fewer fileCount complexity unreadableFiles) := by
  have typeSafety := penalized_ofCount_le paid.typeErrorPenalty
    (categoryCount_le further .typing)
  have density := errorDensity_le further.subset fileCount
  exact ⟨typeSafety, density, rfl,
    Scalar.mean_le_mean (.cons typeSafety (.cons (sub_le_sub_left density _)
      (.cons le_rfl .nil)))⟩

theorem noBetter_codeHealth {settings : QualitySettings Rat} (paid : settings.weights.NonNegative)
    (further : fewer.Subperm more) (disk : Disk) (tree : SourceTree) :
    (codeHealth disk tree settings more).NoBetter (codeHealth disk tree settings fewer) := by
  unfold codeHealth
  cases settings.complexity with
  | some complexity => exact noBetter_codeHealthWith paid further _ _ _
  | none => exact noBetter_codeHealthWith paid further _ _ _

/-- The figure of the code that enters the overall score. -/
theorem CodeHealth.NoBetter.composite_le {health other : CodeHealth Rat}
    (noBetter : health.NoBetter other) : health.composite ≤ other.composite :=
  div_le_div_of_nonneg_right (add_le_add noBetter.typeSafety noBetter.maintainability)
    (by decide +kernel)

/-- The health of the subsystems is not better than another, subsystem by subsystem. -/
structure DomainHealth.NoBetter (health other : DomainHealth Rat) : Prop where
  subsystems : List.Forall₂ (fun left right => left.1 = right.1 ∧ left.2 ≤ right.2)
    health.subsystems.bindings other.subsystems.bindings
  aggregate : health.aggregate ≤ other.aggregate

theorem noBetter_domainHealthWith (paid : weights.NonNegative) (further : fewer.Subperm more)
    (subsystems : List (Subsystem Rat × Nat)) :
    (domainHealthWith weights more subsystems).NoBetter
      (domainHealthWith weights fewer subsystems) := by
  have scores : List.Forall₂ (fun left right => left.1 = right.1 ∧ left.2 ≤ right.2)
      (domainHealthWith weights more subsystems).subsystems.bindings
      (domainHealthWith weights fewer subsystems).subsystems.bindings := by
    refine OrderedMap.forall₂_ofList (· ≤ ·) ?_
    rw [List.forall₂_map_left_iff, List.forall₂_map_right_iff]
    exact List.forall₂_same.2 fun entry _ =>
      ⟨rfl, subsystemScore_le paid further entry.1 entry.2⟩
  refine ⟨scores, Scalar.mean_le_mean ?_⟩
  rw [OrderedMap.values, OrderedMap.values, List.forall₂_map_left_iff,
    List.forall₂_map_right_iff]
  exact scores.imp fun _ _ both => both.2

/-- The security assessment is not better than another. -/
structure SecurityAssessment.NoBetter (security other : SecurityAssessment Rat) : Prop where
  score : security.score ≤ other.score
  vulnerabilities : other.vulnerabilities ≤ security.vulnerabilities
  grade : gradePlace other.grade ≤ gradePlace security.grade

theorem noBetter_securityAssessment (paid : weights.NonNegative) (further : fewer.Subperm more)
    (profile : Profile) (patterns others : List ErrorPattern) :
    (securityAssessment weights profile more patterns).NoBetter
      (securityAssessment weights profile fewer others) := by
  have vulnerabilities := Nat.add_le_add (categoryCount_le further .security)
    (hits_le further profile.permissiveMarkers)
  have score := penalized_ofCount_le paid.vulnerabilityPenalty vulnerabilities
  exact ⟨score, Int.ofNat_le.2 vulnerabilities, gradePlace_le score⟩

/-- The overall score is not better than another. -/
structure OverallScore.NoBetter (overall other : OverallScore Rat) : Prop where
  score : overall.score ≤ other.score
  grade : gradePlace other.grade ≤ gradePlace overall.grade

/-- Metrics of which no figure is better than that of others. -/
structure QualityMetrics.NoBetter (metrics others : QualityMetrics Rat) : Prop where
  code : metrics.code.NoBetter others.code
  domain : metrics.domain.NoBetter others.domain
  security : metrics.security.NoBetter others.security
  overall : metrics.overall.NoBetter others.overall

theorem noBetter_measureQuality {scope : QualityScope Rat}
    (paid : scope.settings.weights.NonNegative) (further : fewer.Subperm more) (disk : Disk)
    (patterns others : List ErrorPattern) :
    (measureQuality disk scope more patterns).NoBetter
      (measureQuality disk scope fewer others) := by
  have code := noBetter_codeHealth paid further disk scope.tree
  have domain : (domainHealth disk scope.tree scope.settings.weights scope.subsystems
      more).NoBetter (domainHealth disk scope.tree scope.settings.weights scope.subsystems
        fewer) := noBetter_domainHealthWith paid further _
  have security := noBetter_securityAssessment paid further scope.profile patterns others
  have score := add_le_add (add_le_add (mul_le_mul_of_nonneg_left code.composite_le paid.code)
    (mul_le_mul_of_nonneg_left domain.aggregate paid.domain))
    (mul_le_mul_of_nonneg_left security.score paid.security)
  exact ⟨code, domain, security, score, gradePlace_le score⟩

/-! ## Reordering -/

/-- Metrics whose figures are those of others.  Patterns have no part in the figures, only in the
issues and recommendations. -/
structure QualityMetrics.SameFigures (metrics others : QualityMetrics Rat) : Prop where
  code : metrics.code = others.code
  domain : metrics.domain = others.domain
  securityScore : metrics.security.score = others.security.score
  vulnerabilities : metrics.security.vulnerabilities = others.security.vulnerabilities
  securityGrade : metrics.security.grade = others.security.grade
  overall : metrics.overall = others.overall

theorem sameFigures_measureQuality (reordered : fewer.Perm more) (disk : Disk)
    (scope : QualityScope Rat) (patterns others : List ErrorPattern) :
    (measureQuality disk scope more patterns).SameFigures
      (measureQuality disk scope fewer others) := by
  have categories (category : Category) :
      categoryCount category more = categoryCount category fewer :=
    (reordered.countP_eq _).symm
  have concerns (subsystem : Subsystem Rat) :
      concernCount subsystem more = concernCount subsystem fewer :=
    (reordered.countP_eq _).symm
  have mentions := (hits_eq reordered scope.profile.permissiveMarkers).symm
  have density (fileCount : Nat) :
      (errorDensity more fileCount : Rat) = errorDensity fewer fileCount := by
    simp only [errorDensity, fileCount_eq reordered]
  have code : codeHealth disk scope.tree scope.settings more =
      codeHealth disk scope.tree scope.settings fewer := by
    simp only [codeHealth, codeHealthWith, categories, density]
  have domain : domainHealth disk scope.tree scope.settings.weights scope.subsystems more =
      domainHealth disk scope.tree scope.settings.weights scope.subsystems fewer := by
    simp only [domainHealth, domainHealthWith, subsystemScore, concerns]
  have vulnerabilities :
      categoryCount .security more +
          Marker.hits scope.profile.permissiveMarkers (more.map Diagnostic.message) =
        categoryCount .security fewer +
          Marker.hits scope.profile.permissiveMarkers (fewer.map Diagnostic.message) := by
    rw [categories, mentions]
  have score : (securityAssessment scope.settings.weights scope.profile more patterns).score =
      (securityAssessment scope.settings.weights scope.profile fewer others).score := by
    simp only [securityAssessment, vulnerabilities]
  refine ⟨code, domain, score, congrArg Int.ofNat vulnerabilities, congrArg gradeFor score, ?_⟩
  simp only [measureQuality, overallScore, code, domain, score]

/-- **More diagnostics never improve a figure, and their order never counts.**  The patterns of
the two runs may be any. -/
theorem measureQuality_never_improves (disk : Disk) (scope : QualityScope Rat)
    (fewer more : List Diagnostic) (patterns others : List ErrorPattern)
    (paid : scope.settings.weights.NonNegative) (further : fewer.Subperm more) :
    (measureQuality disk scope more patterns).NoBetter
        (measureQuality disk scope fewer others) ∧
      (fewer.Perm more → (measureQuality disk scope more patterns).SameFigures
        (measureQuality disk scope fewer others)) :=
  ⟨noBetter_measureQuality paid further disk patterns others,
    fun reordered => sameFigures_measureQuality reordered disk scope patterns others⟩

/-- A further finding, which takes the security score down. -/
def sampleThreat : Diagnostic :=
  { code := .int 9999, message := .text "eval", file := .text "auth.ts"
    line := .int 1, column := .int 2, severity := .error, category := .security }

theorem measureQuality_sampleScope_never_improves :
    sampleScope.settings.weights.NonNegative ∧
      sampleFindings.Subperm (sampleThreat :: sampleFindings.reverse) ∧
      (measureQuality .empty sampleScope (sampleThreat :: sampleFindings.reverse) []).NoBetter
        (measureQuality .empty sampleScope sampleFindings []) ∧
      (measureQuality .empty sampleScope sampleFindings.reverse []).SameFigures
        (measureQuality .empty sampleScope sampleFindings []) ∧
      (measureQuality .empty sampleScope (sampleThreat :: sampleFindings.reverse)
        []).overall.score < (measureQuality .empty sampleScope sampleFindings []).overall.score := by
  have paid : sampleScope.settings.weights.NonNegative := Weights.nonNegative_standard
  have reordered : sampleFindings.Perm sampleFindings.reverse :=
    (List.reverse_perm sampleFindings).symm
  have further : sampleFindings.Subperm (sampleThreat :: sampleFindings.reverse) :=
    reordered.subperm.cons_right sampleThreat
  exact ⟨paid, further, (measureQuality_never_improves _ _ _ _ _ _ paid further).1,
    (measureQuality_never_improves _ _ _ _ _ _ paid reordered.subperm).2 reordered,
    by decide +kernel⟩

end Triage
