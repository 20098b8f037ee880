import Triage.Decimal.Nearest
import Triage.Text.Blank
import Triage.Text.Digit

/-!
# Reading numerals

A numeral is read from a text whose ends may be blank.  Whole numbers have an
optional sign and decimal digits of any script; single low lines may stand between
digits; more than 4300 digits are refused.  Other numbers may have a point and an
exponent, and the words for the values that are not finite are read in any case.

What cannot be read is not written either: a whole number that would need more digits
has no numeral.
-/

namespace Triage.Decimal

set_option autoImplicit false

open Triage.Text

/-- The most digits that a whole number may be written with. -/
def maxDigits : Nat := 4300

/-- Whether a whole number has a numeral; its sign does not count. -/
def hasNumeral (number : Int) : Bool := number.natAbs < Nat.pow 10 maxDigits

/-- The number that a list of digit values stands for. -/
def ofDigitValues (values : List Nat) : Nat :=
  values.foldl (fun number value => number * 10 + value) 0

/-- Read digits up to the end of a text, single low lines between digits; `afterDigit`
tells whether the last character was a digit. -/
def digitValues? (afterDigit : Bool) : List Char → Option (List Nat)
  | [] => if afterDigit then some [] else none
  | c :: rest =>
      match digitValue? c with
      | some value => (digitValues? true rest).map (value :: ·)
      | none => if c = '_' && afterDigit then digitValues? false rest else none

/-- Take the sign off a numeral. -/
def takeSign : List Char → Bool × List Char
  | '-' :: rest => (true, rest)
  | '+' :: rest => (false, rest)
  | text => (false, text)

/-- Whether `c` may surround a numeral: every blank but the four ASCII separators. -/
def isNumeralBlank (c : Char) : Bool := isBlank c && !(28 ≤ c.toNat && c.toNat ≤ 31)

/-- A numeral without the blanks around it. -/
def trimNumeral (text : List Char) : List Char :=
  dropEndWhile isNumeralBlank (text.dropWhile isNumeralBlank)

/-- The whole number that a text spells, if it spells one. -/
def readInt? (text : String) : Option Int :=
  let (negative, body) := takeSign (trimNumeral text.toList)
  match digitValues? false body with
  | none => none
  | some values =>
      if maxDigits < values.length then none
      else
        let size : Int := ofDigitValues values
        some (if negative then -size else size)

/-- The number nearest to `digits * 10 ^ exponent`, where `digits` has at most `count`
digits.  Exponents far beyond those of all finite numbers need no arithmetic. -/
def scaleDecimal (digits : Nat) (count : Nat) (exponent : Int) : Float :=
  if digits = 0 then 0
  else if 400 < exponent then infinity
  else if exponent + count < -400 then 0
  else nearest (digits * Nat.pow 10 exponent.toNat) (Nat.pow 10 (-exponent).toNat)

/-- Whether the low lines of a text all stand between two digits. -/
def lowLinesFit (afterDigit : Bool) : List Char → Bool
  | [] => true
  | '_' :: next :: rest => afterDigit && isAsciiDigit next && lowLinesFit true rest
  | ['_'] => false
  | c :: rest => lowLinesFit (isAsciiDigit c) rest

/-- A text with the decimal digits of all scripts written in ASCII. -/
def asciiDigits (text : List Char) : List Char :=
  text.map fun c => match digitValue? c with
    | some value => Char.ofNat (48 + value)
    | none => c

/-- The exponent that ends a numeral; no exponent counts as zero. -/
def readExponent? : List Char → Option Int
  | [] => some 0
  | mark :: rest =>
      if mark = 'e' || mark = 'E' then
        let (negative, digits) := takeSign rest
        if digits.isEmpty || !digits.all isAsciiDigit then none
        else
          let size : Int := ofDigitValues (digits.filterMap digitValue?)
          some (if negative then -size else size)
      else none

/-- The size of a number in ASCII digits, with a point and an exponent as options. -/
def readSize? (text : List Char) : Option Float :=
  let whole := text.takeWhile isAsciiDigit
  let afterWhole := text.dropWhile isAsciiDigit
  let (fraction, tail) := match afterWhole with
    | '.' :: rest => (rest.takeWhile isAsciiDigit, rest.dropWhile isAsciiDigit)
    | rest => ([], rest)
  if whole.isEmpty && fraction.isEmpty then none
  else
    (readExponent? tail).map fun exponent =>
      let digits := whole ++ fraction
      scaleDecimal (ofDigitValues (digits.filterMap digitValue?)) digits.length
        (exponent - fraction.length)

/-- The number that a text spells, if it spells one. -/
def readFloat? (text : String) : Option Float :=
  let (negative, body) := takeSign (asciiDigits (trimNumeral text.toList))
  let word := String.ofList (body.map Char.toLower)
  let size :=
    if word = "nan" then some notANumber
    else if word = "inf" || word = "infinity" then some infinity
    else if lowLinesFit false body then readSize? (body.filter (· ≠ '_'))
    else none
  size.map fun value => if negative then -value else value

/-- The number nearest to a whole number, unless that is infinite. -/
def ofInt? (number : Int) : Option Float :=
  let size := nearest number.natAbs 1
  if size.isInf then none
  else some (if number < 0 then -size else size)

end Triage.Decimal
