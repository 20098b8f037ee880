import Triage.Decimal.Binary

/-!
# The shortest text of a number

A floating-point number is written with the fewest digits that read back as the
same number; among those the nearest ones are taken, and a tie goes to the even
digits.  The numbers that read back are the interval that reaches half a unit to
both sides, a quarter below a power of two, with its ends when the mantissa is
even.  For one digit, two digits and so on up to seventeen the two neighbours of
the number on the decimal grid are tested in exact arithmetic.

The digits are written positionally while the decimal exponent is at least -4 and
below 16, always with a point; beyond that in scientific form, with at least two
digits in the exponent.
-/

namespace Triage.Decimal

set_option autoImplicit false

/-- A positive number as a fraction, with the interval of numbers that read back as
it; all four share one denominator. -/
structure Interval where
  /-- The lower end. -/
  low : Nat
  /-- The number itself. -/
  value : Nat
  /-- The upper end. -/
  high : Nat
  /-- The common denominator. -/
  denominator : Nat
  /-- Whether the ends read back as the number too. -/
  closed : Bool

/-- The interval around `mantissa * 2 ^ exponent`. -/
def Interval.around (mantissa : Nat) (exponent : Int) : Interval :=
  let unit := Nat.pow 2 exponent.toNat
  let below := if mantissa = Nat.pow 2 52 ∧ -1074 < exponent then unit else 2 * unit
  { low := 4 * mantissa * unit - below
    value := 4 * mantissa * unit
    high := 4 * mantissa * unit + 2 * unit
    denominator := 4 * Nat.pow 2 (-exponent).toNat
    closed := mantissa % 2 == 0 }

/-- Decimal digits: the number `digits * 10 ^ exponent`. -/
structure Digits where
  /-- The digits, read as a whole number. -/
  digits : Nat
  /-- The power of ten of the last digit. -/
  exponent : Int
deriving Repr, DecidableEq

/-- The number of decimal digits of a positive whole number, found within `fuel` steps. -/
def digitCount : Nat → Nat → Nat
  | 0, _ => 0
  | fuel + 1, number => if number = 0 then 0 else digitCount fuel (number / 10) + 1

/-- How many places a fraction below one has to be shifted to reach one. -/
def leadingShift (numerator denominator : Nat) : Nat → Nat
  | 0 => 0
  | fuel + 1 =>
      if denominator ≤ numerator then 0
      else leadingShift (numerator * 10) denominator fuel + 1

/-- The number of digits before the decimal point, not positive for a number below one. -/
def Interval.pointPlace (interval : Interval) : Int :=
  if interval.denominator ≤ interval.value then
    digitCount 400 (interval.value / interval.denominator)
  else 1 - (leadingShift interval.value interval.denominator 400 : Int)

/-- Whether `candidate * 10 ^ exponent` reads back as the number. -/
def Interval.accepts (interval : Interval) (candidate : Nat) (exponent : Int) : Bool :=
  let scaled := candidate * Nat.pow 10 exponent.toNat * interval.denominator
  let shift := Nat.pow 10 (-exponent).toNat
  if interval.closed then interval.low * shift ≤ scaled && scaled ≤ interval.high * shift
  else interval.low * shift < scaled && scaled < interval.high * shift

/-- The neighbour of the number on the grid of `10 ^ exponent` that reads back, the
nearer one when both do. -/
def Interval.onGrid (interval : Interval) (exponent : Int) : Option Digits :=
  let unit := Nat.pow 10 exponent.toNat * interval.denominator
  let scaled := interval.value * Nat.pow 10 (-exponent).toNat
  let below := scaled / unit
  let nearest := roundQuotient scaled unit
  let other := if nearest = below then below + 1 else below
  if interval.accepts nearest exponent then some ⟨nearest, exponent⟩
  else if interval.accepts other exponent then some ⟨other, exponent⟩
  else none

/-- The first grid with a hit, trying `fuel` grids from the coarsest on. -/
def Interval.firstHit (interval : Interval) (exponent : Int) : Nat → Digits
  | 0 => ⟨0, 0⟩
  | fuel + 1 =>
      match interval.onGrid exponent with
      | some hit => hit
      | none => interval.firstHit (exponent - 1) fuel

/-- Move trailing zeros of the digits into the exponent, `fuel` at most. -/
def Digits.stripZeros (digits : Nat) (exponent : Int) : Nat → Digits
  | 0 => ⟨digits, exponent⟩
  | fuel + 1 =>
      if digits % 10 = 0 ∧ digits ≠ 0 then Digits.stripZeros (digits / 10) (exponent + 1) fuel
      else ⟨digits, exponent⟩

/-- The fewest digits that read back as `mantissa * 2 ^ exponent`. -/
def shortestDigits (mantissa : Nat) (exponent : Int) : Digits :=
  let interval := Interval.around mantissa exponent
  let hit := interval.firstHit (interval.pointPlace - 1) 18
  Digits.stripZeros hit.digits hit.exponent 400

/-- `count` zeros. -/
def zeros (count : Nat) : List Char := List.replicate count '0'

/-- Digits with the point after the first `place` of them; zeros fill up both sides. -/
def positional (digits : List Char) (place : Int) : List Char :=
  if place ≤ 0 then '0' :: '.' :: (zeros (-place).toNat ++ digits)
  else
    let whole := digits.take place.toNat
    let fraction := digits.drop place.toNat
    whole ++ zeros (place.toNat - digits.length) ++
      '.' :: (if fraction.isEmpty then ['0'] else fraction)

/-- A decimal exponent: its sign and at least two digits. -/
def exponentMark (exponent : Int) : List Char :=
  let digits := (toString exponent.natAbs).toList
  'e' :: (if exponent < 0 then '-' else '+') :: (zeros (2 - digits.length) ++ digits)

/-- Digits in scientific form, the point after the first one. -/
def scientific (digits : List Char) (exponent : Int) : List Char :=
  let mantissa := match digits with
    | [] => []
    | [first] => [first]
    | first :: more => first :: '.' :: more
  mantissa ++ exponentMark exponent

/-- The shortest text of a positive finite number. -/
def Digits.text (found : Digits) : List Char :=
  let digits := (toString found.digits).toList
  let place : Int := digits.length + found.exponent
  if -4 < place ∧ place ≤ 16 then positional digits place else scientific digits (place - 1)

/-- The shortest text of a floating-point number. -/
def shortest (number : Float) : String :=
  match meaning number with
  | .undefined => "nan"
  | .infinite negative => if negative then "-inf" else "inf"
  | .finite value =>
      let sign := if value.negative then ['-'] else []
      let size := if value.mantissa = 0 then ['0', '.', '0']
        else (shortestDigits value.mantissa value.exponent).text
      String.ofList (sign ++ size)

end Triage.Decimal
