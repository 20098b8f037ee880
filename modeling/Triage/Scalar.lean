import Triage.Decimal.Numeral

/-!
# Numbers that scores are made of

A score is computed with the four operations and two comparisons, and nothing else is
asked of the numbers it is made of.  A run computes with floating-point numbers; the
same definitions read in rational numbers say what the scores mean before rounding.

Comparisons answer with a truth value of their own, because of two floating-point
numbers neither need be at most the other.
-/

namespace Triage

set_option autoImplicit false

/-- The numbers that scores are made of. -/
class Scalar (Number : Type) extends Add Number, Sub Number, Mul Number, Div Number where
  /-- The number of a whole number. -/
  ofInt : Int → Number
  /-- Whether the first number is at most the second. -/
  atMost : Number → Number → Bool
  /-- Whether the first number is less than the second. -/
  lessThan : Number → Number → Bool

instance : Scalar Float where
  ofInt := Float.ofInt
  atMost first second := first ≤ second
  lessThan first second := first < second

instance : Scalar Rat where
  ofInt number := number
  atMost first second := first ≤ second
  lessThan first second := first < second

namespace Scalar

variable {Number : Type} [Scalar Number]

/-- The quotient of two whole numbers. -/
def ofRatio (numerator denominator : Int) : Number := ofInt numerator / ofInt denominator

/-- The number of a count. -/
def ofCount (count : Nat) : Number := ofInt count

/-- The second number when it is less than the first, else the first. -/
def smaller (first second : Number) : Number := if lessThan second first then second else first

/-- The second number when it is greater than the first, else the first. -/
def greater (first second : Number) : Number := if lessThan first second then second else first

/-- A score cut to the scale from zero to one hundred. -/
def clamp (score : Number) : Number := greater (ofInt 0) (smaller (ofInt 100) score)

/-- The sum of numbers, added from the first to the last. -/
def total (numbers : List Number) : Number := numbers.foldl (· + ·) (ofInt 0)

/-- The mean of numbers; one hundred when there are none. -/
def mean (numbers : List Number) : Number :=
  if numbers.isEmpty then ofInt 100 else total numbers / ofCount numbers.length

end Scalar

end Triage
