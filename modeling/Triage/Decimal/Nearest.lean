import Triage.Decimal.Rounding

/-!
# The nearest floating-point number

A fraction becomes the floating-point number nearest to it, a tie going to the even
mantissa.  The unit is the power of two that leaves fifty-three binary digits, and
never less than the smallest unit there is; the bits of the result are the mantissa
added to the exponent, so that a mantissa that is rounded up to the next power of
two carries into the exponent by itself.
-/

namespace Triage.Decimal

set_option autoImplicit false

/-- The number that is larger than all others. -/
def infinity : Float := Float.ofBits 0x7ff0000000000000

/-- The value that is no number. -/
def notANumber : Float := Float.ofBits 0x7ff8000000000000

/-- The exponent of the unit in which a positive fraction has fifty-three binary digits. -/
def unitExponent (numerator denominator : Nat) : Int :=
  let estimate : Int := (numerator.log2 : Int) - denominator.log2
  let reaches := denominator * Nat.pow 2 estimate.toNat ≤ numerator * Nat.pow 2 (-estimate).toNat
  if reaches then estimate - 52 else estimate - 53

/-- The floating-point number nearest to a fraction. -/
def nearest (numerator denominator : Nat) : Float :=
  if numerator = 0 then 0
  else
    let exponent := max (unitExponent numerator denominator) (-1074)
    if 971 < exponent then infinity
    else
      let mantissa := roundQuotient (numerator * Nat.pow 2 (-exponent).toNat)
        (denominator * Nat.pow 2 exponent.toNat)
      Float.ofBits (UInt64.ofNat (mantissa + (exponent + 1074).toNat * Nat.pow 2 52))

end Triage.Decimal
