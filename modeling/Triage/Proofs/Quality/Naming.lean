import Triage.Proofs.Ordering
import Triage.Proofs.Quality.Scale
import Triage.Proofs.Table

/-!
# Subsystems that share a name

Every subsystem has a score of its own, but the scores are filed under names, and so are the
subsystems without files; nothing keeps two subsystems from having one name.  What the metrics
say of a subsystem is therefore said of its name (`find?_subsystems_domainHealth`,
`contains_unmatched_domainHealth`): the score of the last subsystem of that name counts, and one
subsystem without files silences all of them.  The aggregate has one term for each name.

`measureQuality_judges_by_name` says so for all subsystems, and that each of them is judged on
its own where no two names are the same.  Where two are, a subsystem below its threshold may go
unmentioned (`pairScope_hides_a_low_subsystem`).
-/

namespace Triage

set_option autoImplicit false

variable {Number : Type}

/-! ## Names -/

namespace QualityScope

variable (scope : QualityScope Number)

/-- The last subsystem with a name. -/
def lastNamed (name : Value) : Option (Subsystem Number) :=
  scope.subsystems.findRev? fun subsystem => subsystem.name == name

/-- No two subsystems have the same name. -/
def NamesApart : Prop :=
  scope.subsystems.Pairwise fun first second => (first.name == second.name) = false

instance : Decidable scope.NamesApart :=
  inferInstanceAs (Decidable (scope.subsystems.Pairwise _))

variable {scope}

/-- Where no two names are the same, a name tells which subsystem it is. -/
theorem NamesApart.eq_of_beq (apart : scope.NamesApart) {first second : Subsystem Number}
    (listed : first ∈ scope.subsystems) (member : second ∈ scope.subsystems)
    (same : first.name == second.name) : first = second :=
  OrderedMap.eq_of_key_beq Subsystem.name apart listed member same

/-- Where no two names are the same, a subsystem is the last one with its name. -/
theorem NamesApart.lastNamed_eq (apart : scope.NamesApart) {subsystem : Subsystem Number}
    (listed : subsystem ∈ scope.subsystems) :
    scope.lastNamed subsystem.name = some subsystem :=
  OrderedMap.findRev?_of_apart Subsystem.name apart listed

end QualityScope

/-! ## What is said of a subsystem -/

variable [Scalar Number]

/-- The recommendation to mend a subsystem. -/
def Subsystem.mending (subsystem : Subsystem Number) : QualityRecommendation :=
  ⟨.high, "domain",
    if subsystem.recommendation.isTruthy then subsystem.recommendation
    else .text ("Address " ++ subsystem.title ++ " type issues to keep the subsystem stable"),
    "Preserve reliable " ++ subsystem.title ++ " behavior for users"⟩

/-- The recommendation to review all subsystems, made when their aggregate is low. -/
def reviewOf (aggregate : Number) : List QualityRecommendation :=
  if Scalar.lessThan aggregate (Scalar.ofInt 80) then
    [⟨.high, "domain", .text "Comprehensive designated subsystem type review needed",
      "Keep the platform's core features dependable"⟩]
  else []

/-- A recommendation of high priority for the subsystems. -/
def QualityRecommendation.isUrgentForDomain (recommendation : QualityRecommendation) : Bool :=
  recommendation.priority = .high && recommendation.area = "domain"

/-- The recommendations of high priority for the subsystems. -/
def QualityMetrics.urgentForDomain (metrics : QualityMetrics Number) :
    List QualityRecommendation :=
  metrics.recommendations.filter QualityRecommendation.isUrgentForDomain

namespace QualityScope

variable (disk : Disk) (scope : QualityScope Number) (diagnostics : List Diagnostic)

/-- How many files a subsystem has. -/
def fileCount (subsystem : Subsystem Number) : Nat := (scope.tree.filesFor disk subsystem).length

/-- The score of a subsystem, whatever the others are. -/
def ownScore (subsystem : Subsystem Number) : Number :=
  subsystemScore scope.settings.weights subsystem diagnostics (scope.fileCount disk subsystem)

/-- Whether a subsystem has files and its own score is below its threshold. -/
def isLow (subsystem : Subsystem Number) : Bool :=
  scope.fileCount disk subsystem ≠ 0 &&
    Scalar.lessThan (scope.ownScore disk diagnostics subsystem) subsystem.healthThreshold

/-- Whether every subsystem with the name of this one has files, and the score of the last of
them is below the threshold of this one. -/
def isLowByName (subsystem : Subsystem Number) : Bool :=
  (scope.subsystems.all fun other =>
      !(other.name == subsystem.name && scope.fileCount disk other = 0)) &&
    (scope.lastNamed subsystem.name).any fun last =>
      Scalar.lessThan (scope.ownScore disk diagnostics last) subsystem.healthThreshold

/-- The metrics judge every subsystem by itself: each that is low has its recommendation, and the
aggregate is the mean with one term for each. -/
structure JudgesEach (metrics : QualityMetrics Number) : Prop where
  recommendations : metrics.urgentForDomain =
    (scope.subsystems.filter (scope.isLow disk diagnostics)).map Subsystem.mending ++
      reviewOf metrics.domain.aggregate
  aggregate : metrics.domain.aggregate =
    Scalar.mean (scope.subsystems.map (scope.ownScore disk diagnostics))

/-- The metrics judge the subsystems by their names: a recommendation depends on all subsystems
of a name, and the aggregate is the mean with one term for each name. -/
structure JudgesNames (metrics : QualityMetrics Number) : Prop where
  recommendations : metrics.urgentForDomain =
    (scope.subsystems.filter (scope.isLowByName disk diagnostics)).map Subsystem.mending ++
      reviewOf metrics.domain.aggregate
  aggregate : metrics.domain.aggregate =
    Scalar.mean ((scope.subsystems.map Subsystem.name).eraseDups.filterMap fun name =>
      (scope.lastNamed name).map (scope.ownScore disk diagnostics))

end QualityScope

/-! ## Scores under names -/

section Names

variable (disk : Disk) (scope : QualityScope Number) (diagnostics : List Diagnostic)

/-- The health of the subsystems of a scope. -/
theorem subsystems_domainHealth :
    (domainHealth disk scope.tree scope.settings.weights scope.subsystems diagnostics).subsystems =
      .ofList (scope.subsystems.map fun subsystem =>
        (subsystem.name, scope.ownScore disk diagnostics subsystem)) := by
  rw [domainHealth, domainHealthWith, List.map_map]
  rfl

/-- Under a name stands the score of the last subsystem that has it. -/
theorem find?_subsystems_domainHealth (name : Value) :
    (domainHealth disk scope.tree scope.settings.weights scope.subsystems
        diagnostics).subsystems.find? name =
      (scope.lastNamed name).map (scope.ownScore disk diagnostics) := by
  rw [subsystems_domainHealth]
  exact OrderedMap.find?_ofList Subsystem.name (scope.ownScore disk diagnostics) _ name

/-- A name is unmatched when one of the subsystems that have it has no files. -/
theorem contains_unmatched_domainHealth (name : Value) :
    (domainHealth disk scope.tree scope.settings.weights scope.subsystems
        diagnostics).unmatched.contains name =
      scope.subsystems.any fun other => other.name == name && scope.fileCount disk other = 0 := by
  rw [Bool.eq_iff_iff, List.contains_iff_exists_mem_beq, List.any_eq_true]
  simp only [domainHealth, domainHealthWith, QualityScope.fileCount, List.filter_map,
    List.map_map, List.mem_map, List.mem_filter, Function.comp_apply, decide_eq_true_eq,
    Bool.and_eq_true]
  constructor
  · rintro ⟨_, ⟨other, ⟨member, none⟩, rfl⟩, same⟩
    exact ⟨other, member, BEq.symm same, decide_eq_true none⟩
  · rintro ⟨other, member, same, none⟩
    exact ⟨_, ⟨other, ⟨member, of_decide_eq_true none⟩, rfl⟩, BEq.symm same⟩

theorem isUnhealthy_domainHealth (subsystem : Subsystem Number) :
    isUnhealthy (domainHealth disk scope.tree scope.settings.weights scope.subsystems diagnostics)
      subsystem = scope.isLowByName disk diagnostics subsystem := by
  rw [isUnhealthy, contains_unmatched_domainHealth, find?_subsystems_domainHealth,
    QualityScope.isLowByName, Option.any_map, List.not_any_eq_all_not]

end Names

/-! ## Recommendations of high priority -/

theorem filter_codeRecommendations (code : CodeHealth Number) :
    (codeRecommendations code).filter QualityRecommendation.isUrgentForDomain = [] := by
  unfold codeRecommendations
  split <;> split <;> rfl

theorem filter_securityRecommendations (security : SecurityAssessment Number) :
    (securityRecommendations security).filter QualityRecommendation.isUrgentForDomain = [] := by
  unfold securityRecommendations
  split <;> split <;> rfl

theorem subsystemRecommendation_eq (domain : DomainHealth Number) (subsystem : Subsystem Number) :
    subsystemRecommendation domain subsystem =
      if isUnhealthy domain subsystem then [subsystem.mending] else [] := rfl

/-- The unhealthy subsystems are to be mended, in their order. -/
theorem flatMap_subsystemRecommendation (domain : DomainHealth Number)
    (subsystems : List (Subsystem Number)) :
    subsystems.flatMap (subsystemRecommendation domain) =
      (subsystems.filter (isUnhealthy domain)).map Subsystem.mending := by
  induction subsystems with
  | nil => rfl
  | cons subsystem rest ih =>
      rw [List.flatMap_cons, ih, subsystemRecommendation_eq, List.filter_cons]
      split <;> rfl

theorem filter_domainRecommendations (domain : DomainHealth Number)
    (subsystems : List (Subsystem Number)) :
    (domainRecommendations domain subsystems).filter QualityRecommendation.isUrgentForDomain =
      (subsystems.filter (isUnhealthy domain)).map Subsystem.mending ++
        reviewOf domain.aggregate := by
  have mended : ((subsystems.filter (isUnhealthy domain)).map Subsystem.mending).filter
      QualityRecommendation.isUrgentForDomain =
        (subsystems.filter (isUnhealthy domain)).map Subsystem.mending := by
    refine List.filter_eq_self.2 fun recommendation member => ?_
    obtain ⟨subsystem, _, rfl⟩ := List.mem_map.1 member
    rfl
  rw [domainRecommendations, flatMap_subsystemRecommendation, List.filter_append,
    List.filter_append, mended, List.append_assoc]
  congr 1
  unfold reviewOf
  split <;> split <;> rfl

/-- Sorting leaves the recommendations of high priority in their order. -/
theorem filter_qualityRecommendations (subsystems : List (Subsystem Number))
    (code : CodeHealth Number) (domain : DomainHealth Number)
    (security : SecurityAssessment Number) :
    (qualityRecommendations subsystems code domain security).filter
        QualityRecommendation.isUrgentForDomain =
      (subsystems.filter (isUnhealthy domain)).map Subsystem.mending ++
        reviewOf domain.aggregate := by
  have high {recommendation : QualityRecommendation}
      (urgent : recommendation.isUrgentForDomain) : recommendation.priority = .high :=
    of_decide_eq_true (Bool.and_eq_true_iff.1 urgent).1
  have equal : ∀ first second : QualityRecommendation, first.isUrgentForDomain →
      second.isUrgentForDomain → first.priority.rank = second.priority.rank :=
    fun first second left right => by rw [high left, high right]
  have sorted (recommendations : List QualityRecommendation) :
      (recommendations.mergeSort fun first second => second.priority.rank ≤
          first.priority.rank).filter QualityRecommendation.isUrgentForDomain =
        recommendations.filter QualityRecommendation.isUrgentForDomain :=
    filter_mergeSort_falling
      (fun recommendation : QualityRecommendation => recommendation.priority.rank) _ equal
  rw [qualityRecommendations, sorted, List.filter_append, List.filter_append,
    filter_codeRecommendations, filter_domainRecommendations, filter_securityRecommendations,
    List.nil_append, List.append_nil]

/-! ## Names and subsystems -/

section Judging

variable {disk : Disk} {scope : QualityScope Number} {diagnostics : List Diagnostic}

theorem judgesNames_measureQuality (patterns : List ErrorPattern) :
    scope.JudgesNames disk diagnostics (measureQuality disk scope diagnostics patterns) where
  recommendations := by
    refine (filter_qualityRecommendations ..).trans ?_
    rw [funext (isUnhealthy_domainHealth disk scope diagnostics)]
    rfl
  aggregate := by
    change Scalar.mean (domainHealth disk scope.tree scope.settings.weights scope.subsystems
      diagnostics).subsystems.values = _
    rw [OrderedMap.values, subsystems_domainHealth, OrderedMap.bindings_ofList,
      List.map_filterMap]
    simp only [Option.map_map]
    rfl

theorem QualityScope.NamesApart.isLowByName_eq (apart : scope.NamesApart)
    {subsystem : Subsystem Number} (listed : subsystem ∈ scope.subsystems) :
    scope.isLowByName disk diagnostics subsystem = scope.isLow disk diagnostics subsystem := by
  have alone : (scope.subsystems.all fun other =>
      !(other.name == subsystem.name && scope.fileCount disk other = 0)) =
        decide (scope.fileCount disk subsystem ≠ 0) := by
    rw [Bool.eq_iff_iff, List.all_eq_true, decide_eq_true_iff]
    constructor
    · intro all none
      simpa [none] using all subsystem listed
    · intro some other member
      by_cases same : other.name == subsystem.name
      · rw [apart.eq_of_beq member listed same]
        simpa using some
      · simp [same]
  rw [isLowByName, alone, apart.lastNamed_eq listed]
  rfl

theorem judgesEach_measureQuality (apart : scope.NamesApart) (patterns : List ErrorPattern) :
    scope.JudgesEach disk diagnostics (measureQuality disk scope diagnostics patterns) where
  recommendations := by
    rw [(judgesNames_measureQuality patterns).recommendations,
      List.filter_congr fun subsystem listed => apart.isLowByName_eq listed]
  aggregate := by
    change Scalar.mean (domainHealth disk scope.tree scope.settings.weights scope.subsystems
      diagnostics).subsystems.values = _
    have filed : (scope.subsystems.map fun subsystem =>
        (subsystem.name, scope.ownScore disk diagnostics subsystem)).Pairwise
          fun first second => (first.1 == second.1) = false := List.pairwise_map.2 apart
    rw [OrderedMap.values, subsystems_domainHealth, OrderedMap.bindings_ofList_of_apart filed,
      List.map_map]
    rfl

end Judging

/-- **Subsystems are judged by their names**, and each on its own where no two names are the
same. -/
theorem measureQuality_judges_by_name (disk : Disk) (scope : QualityScope Number)
    (diagnostics : List Diagnostic) (patterns : List ErrorPattern) :
    scope.JudgesNames disk diagnostics (measureQuality disk scope diagnostics patterns) ∧
      (scope.NamesApart →
        scope.JudgesEach disk diagnostics (measureQuality disk scope diagnostics patterns)) :=
  ⟨judgesNames_measureQuality patterns, fun apart => judgesEach_measureQuality apart patterns⟩

/-- Two subsystems with the given names, of which only the second has a file. -/
def pairScope (first second : String) : QualityScope Rat :=
  { sampleScope with
    tree := { sampleScope.tree with listing := some [["src", "payments.ts"]] }
    subsystems :=
      [{ Subsystem.designate first ["Page"] .primary with globs := [.text "lib/*"] },
        { Subsystem.designate second ["Payment"] .primary with globs := [.text "src/*"] }] }

/-- A diagnostic of the second subsystem. -/
def pairFindings : List Diagnostic :=
  [{ code := .int 2304, message := .text "Payment of type any", file := .text "src/payments.ts"
     line := .int 1, column := .int 2, severity := .error, category := .typing }]

theorem pairScope_judged_one_by_one :
    (pairScope "pages" "payments").NamesApart ∧
      (pairScope "pages" "payments").JudgesEach .empty pairFindings
        (measureQuality .empty (pairScope "pages" "payments") pairFindings []) ∧
      (pairScope "pages" "payments").subsystems.map
        ((pairScope "pages" "payments").isLow .empty pairFindings) = [false, true] ∧
      (measureQuality .empty (pairScope "pages" "payments") pairFindings []).domain.aggregate =
        65 := by
  have apart : (pairScope "pages" "payments").NamesApart := by decide +kernel
  exact ⟨apart, (measureQuality_judges_by_name .empty _ pairFindings []).2 apart,
    by decide +kernel, by decide +kernel⟩

/-- **A subsystem of the same name hides one that is low.** The second subsystem has a file and a
score below its threshold, but the first one has its name and no files: nothing of high priority
is recommended, and the score of the first is lost. -/
theorem pairScope_hides_a_low_subsystem :
    (pairScope "payments" "payments").subsystems.map
        ((pairScope "payments" "payments").isLow .empty pairFindings) = [false, true] ∧
      (measureQuality .empty (pairScope "payments" "payments") pairFindings
        []).urgentForDomain = [] ∧
      (measureQuality .empty (pairScope "payments" "payments") pairFindings
        []).domain.aggregate = 80 ∧
      Scalar.mean ((pairScope "payments" "payments").subsystems.map
        ((pairScope "payments" "payments").ownScore .empty pairFindings)) = 65 := by
  have silent : (measureQuality .empty (pairScope "payments" "payments") pairFindings
      []).urgentForDomain = [] :=
    (judgesNames_measureQuality []).recommendations.trans (List.isEmpty_iff.1 (by decide +kernel))
  exact ⟨by decide +kernel, silent, by decide +kernel, by decide +kernel⟩

end Triage
