import Mathlib.Algebra.Order.BigOperators.Group.List
import Mathlib.Algebra.Order.Field.Basic
import Mathlib.Algebra.Order.Field.Rat
import Mathlib.Tactic.Linarith
import Mathlib.Tactic.NormNum
import Triage.Proofs.Table
import Triage.Quality.Monitor

/-!
# Scores in rational numbers

Scores are defined for every kind of number that has the four operations and two comparisons.
Read in rational numbers they are the plain figures: cutting is a minimum and a maximum
(`Scalar.clamp_rat`), what is left of a hundred is a difference cut at zero (`penalized_rat`),
and the mean is a sum divided by a length (`Scalar.mean_rat`).

All three go along with the order.  A score that is cut or averaged rises with what it is made
of (`Scalar.clamp_le_clamp`, `Scalar.mean_le_mean`), and what is left of a hundred falls with
the penalty (`penalized_le_penalized`).
-/

namespace Triage

set_option autoImplicit false

/-! ## The operations on scores -/

namespace Scalar

theorem ofInt_rat (number : Int) : (ofInt number : Rat) = number := rfl

theorem ofCount_rat (count : Nat) : (ofCount count : Rat) = count := Int.cast_natCast count

theorem lessThan_rat (first second : Rat) :
    lessThan first second = true ↔ first < second := decide_eq_true_iff

theorem atMost_rat (first second : Rat) :
    atMost first second = true ↔ first ≤ second := decide_eq_true_iff

theorem greater_rat (first second : Rat) : greater first second = max first second := by
  simp only [greater, lessThan_rat, max_def_lt]

theorem smaller_rat (first second : Rat) : smaller first second = min first second := by
  simp only [smaller, lessThan_rat, min_comm first second, min_def_lt]

theorem clamp_rat (score : Rat) : clamp score = max 0 (min 100 score) := by
  rw [clamp, greater_rat, smaller_rat]
  rfl

theorem total_rat (numbers : List Rat) : total numbers = numbers.sum := by
  rw [total, List.sum_eq_foldl]
  rfl

theorem mean_rat (numbers : List Rat) :
    mean numbers = if numbers = [] then 100 else numbers.sum / numbers.length := by
  simp only [mean, List.isEmpty_iff, total_rat, ofCount_rat]
  rfl

/-- The mean of three numbers. -/
theorem mean_three (first second third : Rat) :
    mean [first, second, third] = (first + second + third) / 3 := by
  rw [mean_rat, if_neg (List.cons_ne_nil _ _)]
  norm_num [add_assoc]

/-! ## Scores and order -/

theorem clamp_le_clamp {first second : Rat} (below : first ≤ second) :
    clamp first ≤ clamp second := by
  rw [clamp_rat, clamp_rat]
  exact max_le_max_left 0 (min_le_min_left 100 below)

/-- The mean of smaller numbers is smaller. -/
theorem mean_le_mean {numbers others : List Rat} (below : List.Forall₂ (· ≤ ·) numbers others) :
    mean numbers ≤ mean others := by
  have length := below.length_eq
  rw [mean_rat, mean_rat]
  cases below with
  | nil => exact le_rfl
  | cons here behind =>
      rw [if_neg (List.cons_ne_nil _ _), if_neg (List.cons_ne_nil _ _), length]
      exact div_le_div_of_nonneg_right (List.Forall₂.sum_le_sum (.cons here behind))
        (Nat.cast_nonneg _)

end Scalar

theorem penalized_rat (penalty : Rat) : penalized penalty = max 0 (100 - penalty) :=
  Scalar.greater_rat _ _

/-- The higher the penalty, the less is left. -/
theorem penalized_le_penalized {less more : Rat} (below : less ≤ more) :
    penalized more ≤ penalized less := by
  rw [penalized_rat, penalized_rat]
  exact max_le_max_left 0 (sub_le_sub_left below 100)

/-! ## Weights that take nothing back -/

/-- Weights and penalties of which none is negative. -/
structure Weights.NonNegative (weights : Weights Rat) : Prop where
  code : 0 ≤ weights.code
  domain : 0 ≤ weights.domain
  security : 0 ≤ weights.security
  typeErrorPenalty : 0 ≤ weights.typeErrorPenalty
  subsystemErrorPenalty : 0 ≤ weights.subsystemErrorPenalty
  vulnerabilityPenalty : 0 ≤ weights.vulnerabilityPenalty

theorem Weights.nonNegative_standard : (Weights.standard : Weights Rat).NonNegative := by
  constructor <;> decide +kernel

end Triage
