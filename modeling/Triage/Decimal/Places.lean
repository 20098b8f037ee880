import Triage.Decimal.Shortest

/-!
# Fixed places and significant digits

Two shorter forms of a number.  The first has a given number of places after the
point; the second has six significant digits at most and no trailing zeros, in
scientific form when the rounded number is below `10 ^ -4` or has more than six
digits before the point.  Both round the exact value, ties going to the even digit.
-/

namespace Triage.Decimal

set_option autoImplicit false

/-- Digits padded with zeros at the front to at least `width` digits. -/
def padded (width : Nat) (digits : List Char) : List Char :=
  zeros (width - digits.length) ++ digits

/-- The size of a number with `places` places. -/
def fixedSize (places : Nat) (value : Binary) : List Char :=
  let scaled := roundQuotient (value.numerator * Nat.pow 10 places) value.denominator
  let digits := padded (places + 1) (toString scaled).toList
  let whole := digits.take (digits.length - places)
  if places = 0 then whole else whole ++ '.' :: digits.drop (digits.length - places)

/-- The text of a number that is not finite, or the text made of its exact value. -/
def signedText (size : Binary → List Char) (number : Float) : String :=
  match meaning number with
  | .undefined => "nan"
  | .infinite negative => if negative then "-inf" else "inf"
  | .finite value => String.ofList ((if value.negative then ['-'] else []) ++ size value)

/-- A number with `places` places after the point. -/
def fixed (places : Nat) (number : Float) : String := signedText (fixedSize places) number

/-- How many digits the second form keeps. -/
def significantDigits : Nat := 6

/-- The number of digits before the point of a positive fraction. -/
def pointPlace (numerator denominator : Nat) : Int :=
  if denominator ≤ numerator then digitCount 400 (numerator / denominator)
  else 1 - (leadingShift numerator denominator 400 : Int)

/-- The digits of a positive fraction rounded to the significant ones. -/
def roundSignificant (numerator denominator : Nat) : Digits :=
  let exponent := pointPlace numerator denominator - significantDigits
  let rounded := roundQuotient (numerator * Nat.pow 10 (-exponent).toNat)
    (denominator * Nat.pow 10 exponent.toNat)
  Digits.stripZeros rounded exponent 400

/-- The size of a number with its significant digits. -/
def significantSize (value : Binary) : List Char :=
  if value.mantissa = 0 then ['0']
  else
    let found := roundSignificant value.numerator value.denominator
    let digits := (toString found.digits).toList
    let place : Int := digits.length + found.exponent
    if -4 < place ∧ place ≤ significantDigits then
      if 0 ≤ found.exponent then digits ++ zeros found.exponent.toNat
      else positional digits place
    else scientific digits (place - 1)

/-- A number with its significant digits. -/
def significant (number : Float) : String := signedText significantSize number

end Triage.Decimal
