import Triage.Decimal.Rounding

/-!
# The exact value of a floating-point number

A finite floating-point number is a whole number of units, and its unit is a power
of two.  Everything that is printed about such a number, and every conversion to a
whole number, is computed from these two whole numbers.
-/

namespace Triage.Decimal

set_option autoImplicit false

/-- A finite number: its sign, and its size as `mantissa * 2 ^ exponent`. -/
structure Binary where
  /-- Whether the sign is minus, also of a zero. -/
  negative : Bool
  /-- The number of units. -/
  mantissa : Nat
  /-- The power of two that is the unit. -/
  exponent : Int
deriving Repr, DecidableEq

/-- What a floating-point number stands for. -/
inductive Meaning where
  /-- Not a number. -/
  | undefined
  /-- Larger than every number, or smaller. -/
  | infinite (negative : Bool)
  /-- A number. -/
  | finite (value : Binary)
deriving Repr, DecidableEq

/-- Read the sign, the exponent and the fraction of the sixty-four bits. -/
def Meaning.ofBits (bits : Nat) : Meaning :=
  let negative := bits / Nat.pow 2 63 % 2 == 1
  let scale : Nat := bits / Nat.pow 2 52 % 2048
  let fraction : Nat := bits % Nat.pow 2 52
  if scale = 2047 then
    if fraction = 0 then .infinite negative else .undefined
  else if scale = 0 then .finite ⟨negative, fraction, -1074⟩
  else .finite ⟨negative, fraction + Nat.pow 2 52, (scale : Int) - 1075⟩

/-- What `number` stands for. -/
def meaning (number : Float) : Meaning := Meaning.ofBits number.toBits.toNat

namespace Binary

/-- The size of a number as a fraction. -/
def numerator (value : Binary) : Nat := value.mantissa * Nat.pow 2 value.exponent.toNat

/-- The denominator of the size, a power of two. -/
def denominator (value : Binary) : Nat := Nat.pow 2 (-value.exponent).toNat

/-- The number with its fraction cut off. -/
def truncate (value : Binary) : Int :=
  let whole := value.numerator / value.denominator
  if value.negative then -whole else whole

/-- The whole number nearest to a number, ties going to the even one. -/
def round (value : Binary) : Int :=
  let whole := roundQuotient value.numerator value.denominator
  if value.negative then -whole else whole

end Binary

end Triage.Decimal
