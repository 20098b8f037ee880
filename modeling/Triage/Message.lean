import Triage.Limit
import Triage.Text.Blank
import Triage.Text.Digit
import Triage.Text.LowerCase
import Triage.Text.Search

/-!
# Messages that say the same

Two diagnostics say the same when their messages differ in names and numbers only.
`normalize` forgets both: single quotes are written as double quotes, every maximal
run of decimal digits becomes a placeholder, every quoted part becomes a quoted
placeholder, and the blanks at both ends are dropped.  Quotes pair up from the left,
so the quotes at even places open and those at odd places close; a last quote
without a partner stays.

`slug` makes an identifier of a text: everything but ASCII letters and digits of the
lowered text becomes a low line.
-/

namespace Triage.Message

set_option autoImplicit false

open Triage.Text

/-- The quote that encloses names. -/
def quote : Char := '\x22'

/-- What stands for a number. -/
def numberWord : List Char := "NUMBER".toList

/-- What stands for a quoted name. -/
def nameWord : List Char := "STRING".toList

/-- Write single quotes as double quotes. -/
def unifyQuotes (text : List Char) : List Char := substitute '\x27' quote text

/-- Write the placeholder for every maximal run of digits; `inNumber` tells whether the
run at the start of the text is written already. -/
def maskNumbersFrom (inNumber : Bool) : List Char → List Char
  | [] => []
  | c :: rest =>
      if isDigit c then
        if inNumber then maskNumbersFrom true rest else numberWord ++ maskNumbersFrom true rest
      else c :: maskNumbersFrom false rest

/-- Write the placeholder for every maximal run of digits. -/
def maskNumbers (text : List Char) : List Char := maskNumbersFrom false text

/-- Put pieces together that were cut at quotes: the second piece, the fourth and so on
were quoted if a further piece follows, and give way to the placeholder. -/
def joinMasked : List (List Char) → List Char
  | [] => []
  | [piece] => piece
  | [piece, last] => piece ++ quote :: last
  | piece :: _ :: rest => piece ++ quote :: (nameWord ++ quote :: joinMasked rest)

/-- Write the placeholder for every quoted part. -/
def maskNames (text : List Char) : List Char := joinMasked (cutAt quote text)

/-- A message with its names and numbers forgotten. -/
def normalizeChars (text : List Char) : List Char :=
  trimChars (maskNames (maskNumbers (unifyQuotes text)))

/-- A message with its names and numbers forgotten. -/
def normalize (message : String) : String := String.ofList (normalizeChars message.toList)

/-- Whether a slug keeps `c`. -/
def isSlugChar (c : Char) : Bool :=
  (48 ≤ c.toNat && c.toNat ≤ 57) || (97 ≤ c.toNat && c.toNat ≤ 122)

/-- How long a slug may be. -/
def slugLength : Int := 50

/-- An identifier made of a text. -/
def slug (text : String) (limit : Int) : String :=
  String.ofList (takeLimited limit
    ((lowerFrom [] text.toList).map fun c => if isSlugChar c then c else '_'))

end Triage.Message
