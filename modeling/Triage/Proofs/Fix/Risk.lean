import Mathlib.Algebra.Order.Field.Rat
import Mathlib.Algebra.Order.Ring.Cast
import Mathlib.Tactic.GCongr
import Mathlib.Tactic.Linarith
import Mathlib.Tactic.NormNum
import Mathlib.Tactic.Positivity
import Mathlib.Tactic.Ring
import Triage.Proofs.Fix.Coverage

/-!
# The risk of a plan

The risk of a batch is told by proportions of whole numbers: more than three in ten fixes at high
risk, or else more than half of them at medium risk (`proportionalRisk_batchRisk`).  All fixes of
a category are at high risk or none is, so the risk of the plan of a category is told by the
category and by how many of its diagnostics are in sensitive files
(`categoryRisk_batchRisk`, `plans_are_risky_in_proportion`).

Counted in floating-point numbers, the proportions are products that are rounded to the nearest
number, with a factor that is itself three tenths rounded.  The bounds are met exactly by some
batches, such as three fixes in ten, and rounding does not move one of them across: a number above
three tenths of the fixes is above it by a tenth at least, and a product that should be a whole
number is nearest to that number (`batchRisk_eq_of_isNearest`).
-/

namespace Triage

set_option autoImplicit false

variable {Number : Type} {profile : Profile} {subsystems : List (Subsystem Number)}
  {diagnostics : List Diagnostic}

/-! ## Proportions -/

/-- The risk of a batch of fixes with these risks: high when more than three in ten of them are
at high risk, otherwise medium when more than half are at medium risk, otherwise low. -/
structure ProportionalRisk (risks : List Level) (risk : Level) : Prop where
  high_iff : risk = .high ↔ 3 * risks.length < 10 * risks.count .high
  medium_iff : risk = .medium ↔
    ¬ 3 * risks.length < 10 * risks.count .high ∧ risks.length < 2 * risks.count .medium
  low_iff : risk = .low ↔
    ¬ 3 * risks.length < 10 * risks.count .high ∧ ¬ risks.length < 2 * risks.count .medium

theorem proportionalRisk_batchRisk (risks : List Level) :
    ProportionalRisk risks (batchRisk risks) := by
  unfold batchRisk
  by_cases high : 3 * risks.length < 10 * risks.count .high
  · constructor <;> simp [high]
  · by_cases medium : risks.length < 2 * risks.count .medium
    · constructor <;> simp [high, medium]
    · constructor <;> simp [high, medium]

/-- Exactly three in ten are not more than three in ten. -/
example : batchRisk (List.replicate 3 .high ++ List.replicate 7 .low) = .low := by decide

/-! ## Rounded proportions -/

/-- A floating-point number: a whole number of at most fifty-three binary digits, times a power
of two. -/
def IsDouble (number : Rat) : Prop :=
  ∃ mantissa exponent : Int, |mantissa| < 2 ^ 53 ∧ -1074 ≤ exponent ∧ exponent ≤ 971 ∧
    number = mantissa * 2 ^ exponent

/-- A floating-point number to which no other one is preferred: none is nearer to the exact
number. -/
structure IsNearest (exact rounded : Rat) : Prop where
  isDouble : IsDouble rounded
  nearest : ∀ other, IsDouble other → |rounded - exact| ≤ |other - exact|

/-- The floating-point number for three tenths. -/
def threeTenths : Rat := 5404319552844595 / 2 ^ 54

theorem isDouble_natCast {number : Nat} (small : number < 2 ^ 53) : IsDouble number := by
  refine ⟨number, 0, ?_, by norm_num, by norm_num, by simp⟩
  rw [Nat.abs_cast]
  exact_mod_cast small

/-- In a smaller unit, a multiple of a power of two is a whole number of units, too. -/
theorem zpow_eq_mul_unit {unit exponent : Int} (finer : unit ≤ exponent) :
    (2 : Rat) ^ exponent = ((2 ^ (exponent - unit).toNat : Int) : Rat) * 2 ^ unit := by
  push_cast
  rw [← zpow_natCast, ← zpow_add₀ two_ne_zero]
  congr 1
  omega

theorem lt_gap_of_lt {less more : Int} (unit : Int) (small : less < 2 ^ 53)
    (below : (less : Rat) * 2 ^ unit < more * 2 ^ unit) :
    (less : Rat) * 2 ^ unit < 2 ^ 53 * (more * 2 ^ unit - less * 2 ^ unit) := by
  have positive : (0 : Rat) < 2 ^ unit := zpow_pos two_pos unit
  have apart : less < more := by exact_mod_cast lt_of_mul_lt_mul_right below positive.le
  have gap : (less : Rat) < 2 ^ 53 * (more - less) := by
    exact_mod_cast (by omega : less < 2 ^ 53 * (more - less))
  calc
    (less : Rat) * 2 ^ unit < 2 ^ 53 * (more - less) * 2 ^ unit := by gcongr
    _ = 2 ^ 53 * (more * 2 ^ unit - less * 2 ^ unit) := by ring

/-- **Floating-point numbers are apart**, by more than the smaller one divided by `2 ^ 53`. -/
theorem IsDouble.lt_gap {less more : Rat} (left : IsDouble less) (right : IsDouble more)
    (below : less < more) : less < 2 ^ 53 * (more - less) := by
  obtain ⟨mantissa, exponent, small, _, _, rfl⟩ := left
  obtain ⟨other, further, short, _, _, rfl⟩ := right
  -- Both are counted in the unit of the one that has the smaller unit.
  rcases le_total exponent further with finer | coarser
  · rw [zpow_eq_mul_unit finer, ← mul_assoc, ← Int.cast_mul] at below ⊢
    exact lt_gap_of_lt exponent (abs_lt.1 small).2 below
  · rw [zpow_eq_mul_unit coarser, ← mul_assoc, ← Int.cast_mul] at below ⊢
    have positive : (0 : Rat) < 2 ^ further := zpow_pos two_pos further
    have fewer := lt_of_mul_lt_mul_right below positive.le
    exact lt_gap_of_lt further ((Int.cast_lt.1 fewer).trans (abs_lt.1 short).2) below

/-- The factor is three tenths rounded. -/
theorem isNearest_threeTenths : IsNearest (3 / 10) threeTenths := by
  have double : IsDouble threeTenths := by
    refine ⟨5404319552844595, -54, by norm_num, by norm_num, by norm_num, ?_⟩
    norm_num [threeTenths]
  have short : (3 / 10 : Rat) - threeTenths = 1 / (5 * 2 ^ 54) := by norm_num [threeTenths]
  refine ⟨double, fun other given => ?_⟩
  rw [abs_sub_comm threeTenths, short, abs_of_pos (by norm_num)]
  rcases lt_or_ge threeTenths other with above | below
  · have gap := double.lt_gap given above
    refine le_trans ?_ (le_abs_self _)
    norm_num [threeTenths] at gap ⊢
    linarith
  · rw [abs_sub_comm]
    exact le_trans (by linarith) (le_abs_self _)

theorem mul_threeTenths (fixes : Nat) :
    (fixes : Rat) * threeTenths = 3 * fixes / 10 - fixes / (5 * 2 ^ 54) := by
  norm_num [threeTenths]
  ring

section Nearest

variable {exact rounded other : Rat} (nearest : IsNearest exact rounded) (double : IsDouble other)
include nearest double

/-- Rounding does not go beyond a floating-point number from below. -/
theorem IsNearest.le_of_le (below : exact ≤ other) : rounded ≤ other := by
  have close := nearest.nearest other double
  rw [abs_of_nonneg (sub_nonneg.2 below)] at close
  linarith [le_abs_self (rounded - exact)]

/-- Rounding does not go beyond a floating-point number from above. -/
theorem IsNearest.le_of_ge (above : other ≤ exact) : other ≤ rounded := by
  have close := nearest.nearest other double
  rw [abs_sub_comm other, abs_of_nonneg (sub_nonneg.2 above), abs_sub_comm] at close
  linarith [le_abs_self (exact - rounded)]

end Nearest

section ThreeTenths

variable {fixes number : Nat} (few : fixes < 2 ^ 48) {product : Rat}
  (rounded : IsNearest (fixes * threeTenths) product)
include few rounded

/-- A number that is above three tenths is above them by more than a sixteenth. -/
theorem lt_of_isNearest_threeTenths (counted : number ≤ fixes)
    (above : 3 * fixes < 10 * number) : product < number := by
  have double : IsDouble ((number : Rat) - 1 / 16) := by
    refine ⟨16 * number - 1, -4, ?_, by norm_num, by norm_num, ?_⟩
    · rw [abs_lt]
      omega
    · push_cast
      norm_num
      ring
  have tenth : (3 : Rat) * fixes + 1 ≤ 10 * number := by exact_mod_cast above
  have short : (0 : Rat) ≤ fixes / (5 * 2 ^ 54) := by positivity
  have room : (fixes : Rat) * threeTenths ≤ number - 1 / 16 := by
    rw [mul_threeTenths]
    linarith
  linarith [rounded.le_of_le double room]

/-- A number that is below three tenths is below the product, which lacks less than a tenth. -/
theorem le_of_isNearest_threeTenths (below : 10 * number < 3 * fixes) :
    (number : Rat) ≤ product := by
  have fewer : (fixes : Rat) < 2 ^ 48 := by exact_mod_cast few
  have tenth : (10 : Rat) * number + 1 ≤ 3 * fixes := by exact_mod_cast below
  have short : (fixes : Rat) / (5 * 2 ^ 54) ≤ 1 / 10 := by
    rw [div_le_div_iff₀ (by norm_num) (by norm_num)]
    linarith
  have room : (number : Rat) ≤ fixes * threeTenths := by
    rw [mul_threeTenths]
    linarith
  exact rounded.le_of_ge (isDouble_natCast (by omega)) room

/-- Where three tenths are a whole number the product is not below it: the next floating-point
number is too far away. -/
theorem le_of_isNearest_threeTenths_of_eq (met : 3 * fixes = 10 * number) :
    (number : Rat) ≤ product := by
  by_contra less
  rw [not_le] at less
  have double : IsDouble number := isDouble_natCast (by omega)
  have gap := rounded.isDouble.lt_gap double less
  have close := rounded.nearest number double
  have tenths : (fixes : Rat) = 10 * number / 3 := by
    have cast : (3 : Rat) * fixes = 10 * number := by exact_mod_cast met
    linarith
  have short : (fixes : Rat) * threeTenths = number - 2 * number / (3 * 2 ^ 54) := by
    rw [mul_threeTenths, tenths]
    ring
  have lacks : (0 : Rat) ≤ 2 * number / (3 * 2 ^ 54) := by positivity
  rw [short, sub_sub_cancel, abs_of_nonneg lacks, abs_sub_comm] at close
  have near := (le_abs_self _).trans close
  norm_num at near gap
  linarith

/-- **A number of fixes is above three tenths of them when it is above the rounded product.** -/
theorem lt_iff_of_isNearest_threeTenths (counted : number ≤ fixes) :
    product < number ↔ 3 * fixes < 10 * number := by
  refine ⟨fun less => ?_, lt_of_isNearest_threeTenths few rounded counted⟩
  by_contra above
  rcases (Nat.le_of_not_lt above).lt_or_eq with below | met
  · exact (le_of_isNearest_threeTenths few rounded below).not_gt less
  · exact (le_of_isNearest_threeTenths_of_eq few rounded met.symm).not_gt less

end ThreeTenths

/-- **Rounding does not change the risk of a batch.** It is the risk that is found by comparing
the numbers of fixes with products that are rounded to nearest floating-point numbers. -/
theorem batchRisk_eq_of_isNearest {risks : List Level} (few : risks.length < 2 ^ 48)
    {ofHigh ofMedium : Rat} (high : IsNearest (risks.length * threeTenths) ofHigh)
    (medium : IsNearest (risks.length * (1 / 2)) ofMedium) :
    batchRisk risks =
      if ofHigh < risks.count .high then .high
      else if ofMedium < risks.count .medium then .medium
      else .low := by
  have half : IsDouble (risks.length * (1 / 2)) := by
    refine ⟨risks.length, -1, ?_, by norm_num, by norm_num, by norm_num⟩
    rw [Nat.abs_cast]
    exact_mod_cast few.trans (by norm_num)
  have above : ofMedium < risks.count .medium ↔ risks.length < 2 * risks.count .medium := by
    have whole : ofMedium = risks.length * (1 / 2) :=
      le_antisymm (medium.le_of_le half le_rfl) (medium.le_of_ge half le_rfl)
    rw [whole, mul_one_div, div_lt_iff₀ two_pos, mul_comm]
    exact_mod_cast Iff.rfl
  rw [batchRisk]
  simp only [lt_iff_of_isNearest_threeTenths few high List.count_le_length, above]

/-! ## The plan of a category -/

/-- Fixes of a category are at high risk. -/
def Category.IsRisky (category : Category) : Prop := category = .domain ∨ category = .security

/-- The file of a diagnostic contains a marker of infrastructure. -/
def Diagnostic.isSensitive (profile : Profile) (diagnostic : Diagnostic) : Bool :=
  profile.infrastructureMarkers.any fun marker => (diagnostic.file.holds? marker).passed

/-- The risk of a plan for diagnostics of a category: high in a category at high risk, otherwise
medium when more than half of the files contain a marker of infrastructure, otherwise low. -/
structure CategoryRisk (profile : Profile) (category : Category) (own : List Diagnostic)
    (risk : Level) : Prop where
  high_iff : risk = .high ↔ category.IsRisky
  medium_iff : risk = .medium ↔
    ¬ category.IsRisky ∧ own.length < 2 * own.countP (Diagnostic.isSensitive profile)
  low_iff : risk = .low ↔
    ¬ category.IsRisky ∧ ¬ own.length < 2 * own.countP (Diagnostic.isSensitive profile)

/-- Where safety can be analyzed, a file is sensitive when it contains a marker. -/
theorem isInfrastructure_of_checkSafety {diagnostic : Diagnostic}
    (checked : checkSafety profile diagnostic = .ok ()) :
    isInfrastructure profile diagnostic.file = diagnostic.isSensitive profile := by
  rw [isInfrastructure]
  cases found : isInfrastructure? profile diagnostic.file with
  | error failure =>
      rw [checkSafety, found] at checked
      cases checked
  | ok answer => exact (Verdict.any_passed_of_anyM _ _ answer found).symm

theorem riskOf_of_isRisky {diagnostic : Diagnostic} (risky : diagnostic.category.IsRisky) :
    riskOf profile diagnostic = .high :=
  if_pos risky

theorem riskOf_of_not_isRisky {diagnostic : Diagnostic} (safe : ¬ diagnostic.category.IsRisky)
    (checked : checkSafety profile diagnostic = .ok ()) :
    riskOf profile diagnostic = if diagnostic.isSensitive profile then .medium else .low := by
  rw [← isInfrastructure_of_checkSafety checked]
  exact if_neg safe

/-- All diagnostics of a category are at high risk or none is, so the batch of them is judged by
the category and the files. -/
theorem categoryRisk_batchRisk {category : Category} {own : List Diagnostic} (some : own ≠ [])
    (same : ∀ diagnostic ∈ own, diagnostic.category = category)
    (checked : ∀ diagnostic ∈ own, checkSafety profile diagnostic = .ok ()) :
    CategoryRisk profile category own (batchRisk (own.map (riskOf profile))) := by
  have proportional := proportionalRisk_batchRisk (own.map (riskOf profile))
  have positive : 0 < own.length := List.length_pos_iff.2 some
  by_cases risky : category.IsRisky
  · have high : (own.map (riskOf profile)).count .high = (own.map (riskOf profile)).length := by
      refine List.count_eq_length.2 fun risk member => ?_
      obtain ⟨diagnostic, among, rfl⟩ := List.mem_map.1 member
      exact (riskOf_of_isRisky (same diagnostic among ▸ risky)).symm
    have judged : batchRisk (own.map (riskOf profile)) = .high := by
      rw [proportional.high_iff, high, List.length_map]
      omega
    rw [judged]
    constructor <;> simp [risky]
  · have each : ∀ diagnostic ∈ own, riskOf profile diagnostic =
        if diagnostic.isSensitive profile then .medium else .low := fun diagnostic among =>
      riskOf_of_not_isRisky (same diagnostic among ▸ risky) (checked diagnostic among)
    have high : (own.map (riskOf profile)).count .high = 0 := by
      refine List.count_eq_zero.2 fun member => ?_
      obtain ⟨diagnostic, among, judged⟩ := List.mem_map.1 member
      rw [each diagnostic among] at judged
      split at judged <;> cases judged
    have medium : (own.map (riskOf profile)).count .medium =
        own.countP (Diagnostic.isSensitive profile) := by
      rw [List.count, List.countP_map]
      refine List.countP_congr fun diagnostic among => ?_
      rw [Function.comp_apply, each diagnostic among]
      cases diagnostic.isSensitive profile <;> decide
    constructor
    case high_iff =>
      rw [proportional.high_iff, high]
      exact iff_of_false (Nat.not_lt_zero _) risky
    case medium_iff => rw [proportional.medium_iff, high, medium, List.length_map]; simp [risky]
    case low_iff => rw [proportional.low_iff, high, medium, List.length_map]; simp [risky]

/-- **The risk of a plan.** A plan gathers the suggestions for the diagnostics of a category and
is judged by the category and their files, or it is the plan for the subsystems and at high
risk. -/
theorem planRisk_of_mem_batchPlans {plan : BatchFixPlan}
    (checked : ∀ diagnostic ∈ diagnostics, checkSuggestion profile subsystems diagnostic = .ok ())
    (planned : plan ∈ batchPlans subsystems (diagnostics.map (suggestFix profile subsystems))) :
    (PlansDomain (diagnostics.map (suggestFix profile subsystems)) plan ∧ plan.risk = .high) ∨
      ∃ category, PlansCategory (diagnostics.map (suggestFix profile subsystems)) category plan ∧
        CategoryRisk profile category
          (diagnostics.filter fun diagnostic => diagnostic.category = category) plan.risk := by
  rw [batchPlans_eq] at planned
  rcases List.mem_append.1 planned with ofCategory | ofDomain
  · right
    obtain ⟨category, large, rfl⟩ := List.mem_map.1 ofCategory
    refine ⟨category, ⟨rfl, rfl, rfl⟩, ?_⟩
    have risks : (categoryPlan category ((diagnostics.map (suggestFix profile subsystems)).filter
        fun suggestion => suggestion.category = category)).risk =
        batchRisk ((diagnostics.filter fun diagnostic => diagnostic.category = category).map
          (riskOf profile)) := by
      refine congrArg batchRisk ?_
      rw [List.filter_map, List.map_map]
      rfl
    rw [risks]
    rw [mem_largeCategories, countP_category_suggestions, List.countP_eq_length_filter] at large
    apply categoryRisk_batchRisk
    · exact List.ne_nil_of_length_pos (by omega)
    · exact fun diagnostic member => of_decide_eq_true (List.mem_filter.1 member).2
    · intro diagnostic member
      have passed := checked diagnostic (List.mem_filter.1 member).1
      exact (checkSuggestion_eq_ok_iff.1 passed).2.2.1
  · left
    split at ofDomain
    · cases ofDomain
    · rw [List.mem_singleton] at ofDomain
      subst ofDomain
      exact ⟨plansDomain_domainPlan subsystems _, rfl⟩

/-- **Plans are risky in proportion.** Every batch of fixes is judged by the proportions of its
risks.  A fix report of textual settings and diagnostics is always made, and in every report
that is made the plan for the subsystems is at high risk, and the plan of a category is judged by
the category and the files of its diagnostics. -/
theorem plans_are_risky_in_proportion (profile : Profile) (subsystems : List (Subsystem Number))
    (observedAt : String) (diagnostics : List Diagnostic) (attention : Attention) :
    (∀ fixes : List FixSuggestion, ProportionalRisk (fixes.map fun fix => fix.safety.risk)
      (batchRisk (fixes.map fun fix => fix.safety.risk))) ∧
    (profile.Textual → (∀ subsystem ∈ subsystems, subsystem.Textual) →
      (∀ diagnostic ∈ diagnostics, diagnostic.Textual) →
      Decided ((reportFixes profile subsystems observedAt diagnostics).result attention)) ∧
    ∀ report,
      (reportFixes profile subsystems observedAt diagnostics).result attention = .ok report →
      ∀ plan ∈ report.plans,
        (PlansDomain (diagnostics.map (suggestFix profile subsystems)) plan ∧
          plan.risk = .high) ∨
        ∃ category, PlansCategory (diagnostics.map (suggestFix profile subsystems)) category plan ∧
          CategoryRisk profile category
            (diagnostics.filter fun diagnostic => diagnostic.category = category) plan.risk := by
  refine ⟨fun fixes => proportionalRisk_batchRisk _, decided_reportFixes_of_textual observedAt,
    fun report returned plan planned => ?_⟩
  obtain ⟨checked, rfl⟩ := result_reportFixes_eq_ok_iff.1 returned
  exact planRisk_of_mem_batchPlans (forM_eq_ok_iff.1 checked) planned

/-- Diagnostics of a category in files. -/
def diagnosticsIn (category : Category) (files : List String) : List Diagnostic :=
  files.map fun file =>
    { code := .int 2322, message := .text "Type", file := .text file, line := .int 1
      column := .int 1, severity := .error, category }

/-- Diagnostics of a category at high risk, of one with half of its files sensitive, and of one
with more of them sensitive. -/
def sensitiveDiagnostics : List Diagnostic :=
  diagnosticsIn .security ["a.ts", "b.ts", "c.ts"] ++
    diagnosticsIn .typing ["auth.ts", "server.ts", "a.ts", "b.ts"] ++
    diagnosticsIn .syntactic ["auth.ts", "server.ts", "a.ts"]

theorem plans_for_sensitiveDiagnostics_are_risky_in_proportion :
    ({} : Profile).Textual ∧ (∀ subsystem ∈ [paymentSubsystem], subsystem.Textual) ∧
      (∀ diagnostic ∈ sensitiveDiagnostics, diagnostic.Textual) ∧ ∃ report,
        (reportFixes {} [paymentSubsystem] "" sensitiveDiagnostics).result .nothing = .ok report ∧
        report.plans.map BatchFixPlan.risk = [.high, .low, .medium] ∧
        ∀ plan ∈ report.plans,
          (PlansDomain (sensitiveDiagnostics.map (suggestFix {} [paymentSubsystem])) plan ∧
            plan.risk = .high) ∨
          ∃ category,
            PlansCategory (sensitiveDiagnostics.map (suggestFix {} [paymentSubsystem])) category
              plan ∧
            CategoryRisk {} category
              (sensitiveDiagnostics.filter fun diagnostic => diagnostic.category = category)
              plan.risk := by
  have subsystems : ∀ subsystem ∈ [paymentSubsystem], subsystem.Textual :=
    List.forall_mem_singleton.2 textual_paymentSubsystem
  have diagnostics : ∀ diagnostic ∈ sensitiveDiagnostics, diagnostic.Textual := by decide +kernel
  obtain ⟨_, made, judged⟩ :=
    plans_are_risky_in_proportion {} [paymentSubsystem] "" sensitiveDiagnostics .nothing
  obtain ⟨report, returned⟩ := made Profile.textual_standard subsystems diagnostics
  refine ⟨Profile.textual_standard, subsystems, diagnostics, report, returned, ?_,
    judged report returned⟩
  obtain ⟨_, rfl⟩ := result_reportFixes_eq_ok_iff.1 returned
  decide +kernel

end Triage
