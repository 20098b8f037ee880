/-!
# Rounding a quotient

Every figure that is printed with fewer digits than it has is rounded to the
nearest candidate, and a figure halfway between two candidates goes to the even
one.  The quotient is exact, so the rule is applied to the figure itself and not to
an approximation of it.
-/

namespace Triage.Decimal

set_option autoImplicit false

/-- The whole number nearest to `numerator / denominator`, ties going to the even one. -/
def roundQuotient (numerator denominator : Nat) : Nat :=
  let whole := numerator / denominator
  let twice := 2 * (numerator % denominator)
  if twice < denominator then whole
  else if denominator < twice then whole + 1
  else if whole % 2 = 0 then whole
  else whole + 1

/-- Whole quotients are not changed. -/
theorem roundQuotient_mul (whole denominator : Nat) (positive : 0 < denominator) :
    roundQuotient (whole * denominator) denominator = whole := by
  simp [roundQuotient, Nat.mul_div_cancel whole positive, positive]

end Triage.Decimal
