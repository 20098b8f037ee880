import Triage.Decimal.Numeral
import Triage.Value

/-!
# Reading JSON

The dialect that diagnostics files are written in: standard JSON, and the names
`NaN`, `Infinity` and `-Infinity` as numbers.  Only the space, the tab and the two
line ends may stand around values; controls may not stand inside texts.  A key that
occurs twice keeps its first place and its last value.  A number with a point or an
exponent is a floating-point number, infinite when it is too large; any other number
is a whole number.  Lists and tables may stand inside each other up to a limit.

Texts are made of characters, and a surrogate is none.  An escape for a surrogate that has no
partner is read as the replacement character, so such escapes are not told apart, whether they
stand in a message, a key or the name of a file.

A reader takes what is left of the text and returns what it read with the rest.  A
fault records how much of the text was left where it was found, so the position of
the fault is known once the length of the whole text is.
-/

namespace Triage.Json

set_option autoImplicit false

/-- Why a text is not JSON. -/
inductive Fault where
  | valueExpected
  | nameExpected
  | colonExpected
  | commaExpected
  | unterminatedText
  | controlInText
  | badEscape
  | badUnicodeEscape
  | extraData
  | byteOrderMark
  /-- A whole number with more digits than can be read. -/
  | numberTooLong
  | nestedTooDeep
deriving Repr, DecidableEq

/-- What is expected at the place of a fault. -/
def Fault.message : Fault → String
  | .valueExpected => "Expecting value"
  | .nameExpected => "Expecting property name enclosed in double quotes"
  | .colonExpected => "Expecting ':' delimiter"
  | .commaExpected => "Expecting ',' delimiter"
  | .unterminatedText => "Unterminated string starting at"
  | .controlInText => "Invalid control character at"
  | .badEscape => "Invalid \\escape"
  | .badUnicodeEscape => "Invalid \\uXXXX escape"
  | .extraData => "Extra data"
  | .byteOrderMark => "Unexpected UTF-8 BOM (decode using utf-8-sig)"
  | .numberTooLong => "Exceeds the limit for integer string conversion"
  | .nestedTooDeep => "Values are nested too deeply"

/-- A fault and how many characters were left at its place. -/
structure Misread where
  fault : Fault
  left : Nat
deriving Repr, DecidableEq

/-- What a part of a text spells, and what comes after that part. -/
abbrev Reading (Read : Type) := Read × List Char

/-- Whether `c` may stand around values. -/
def isLayout (c : Char) : Bool := c = ' ' || c = '\t' || c = '\n' || c = '\r'

/-- Drop the layout at the start of a text. -/
def skipLayout (text : List Char) : List Char := text.dropWhile isLayout

/-- The value of a hexadecimal digit. -/
def hexValue? (c : Char) : Option Nat :=
  let code := c.toNat
  if 48 ≤ code && code ≤ 57 then some (code - 48)
  else if 65 ≤ code && code ≤ 70 then some (code - 55)
  else if 97 ≤ code && code ≤ 102 then some (code - 87)
  else none

/-- The code unit of four hexadecimal digits. -/
def unit? : List Char → Option (Nat × List Char)
  | a :: b :: c :: d :: rest =>
      match hexValue? a, hexValue? b, hexValue? c, hexValue? d with
      | some a, some b, some c, some d => some (((a * 16 + b) * 16 + c) * 16 + d, rest)
      | _, _, _, _ => none
  | _ => none

/-- The character that a single letter stands for after a backslash. -/
def letterEscape? (c : Char) : Option Char :=
  if c = '\x22' || c = '\\' || c = '/' then some c
  else if c = 'b' then some '\x08'
  else if c = 'f' then some '\x0c'
  else if c = 'n' then some '\n'
  else if c = 'r' then some '\r'
  else if c = 't' then some '\t'
  else none

/-- The character of a code unit.  A surrogate without a partner is no character, and all of them
are replaced by one that is. -/
def unitChar (unit : Nat) : Char :=
  if 0xd800 ≤ unit && unit ≤ 0xdfff then Char.ofNat 0xfffd else Char.ofNat unit

/-- The escape behind `\u`: a code unit, or two that form a surrogate pair.  There has
to be a further character behind the digits, since a text ends with a quote. -/
def unicodeEscape (text : List Char) : Except Misread (Reading Char) :=
  match unit? text with
  | none => .error ⟨.badUnicodeEscape, text.length + 1⟩
  | some (_, []) => .error ⟨.badUnicodeEscape, text.length + 1⟩
  | some (unit, rest) =>
      match rest with
      | '\\' :: 'u' :: more =>
          if 0xd800 ≤ unit && unit ≤ 0xdbff && 4 < more.length then
            match unit? more with
            | none => .error ⟨.badUnicodeEscape, more.length + 1⟩
            | some (second, after) =>
                if 0xdc00 ≤ second && second ≤ 0xdfff then
                  .ok (Char.ofNat (0x10000 + (unit - 0xd800) * 0x400 + (second - 0xdc00)), after)
                else .ok (unitChar unit, rest)
          else .ok (unitChar unit, rest)
      | _ => .ok (unitChar unit, rest)

/-- Read a text up to its closing quote; `opening` is what was left at its opening one. -/
def readText (opening read : List Char) : Nat → List Char → Except Misread (Reading String)
  | 0, _ => .error ⟨.unterminatedText, opening.length⟩
  | _ + 1, [] => .error ⟨.unterminatedText, opening.length⟩
  | fuel + 1, c :: rest =>
      if c = '\x22' then .ok (String.ofList read.reverse, rest)
      else if c.toNat < 32 then .error ⟨.controlInText, rest.length + 1⟩
      else if c = '\\' then
        match rest with
        | [] => .error ⟨.unterminatedText, opening.length⟩
        | mark :: after =>
            if mark = 'u' then
              match unicodeEscape after with
              | .error misread => .error misread
              | .ok (found, tail) => readText opening (found :: read) fuel tail
            else
              match letterEscape? mark with
              | some found => readText opening (found :: read) fuel after
              | none => .error ⟨.badEscape, rest.length + 1⟩
      else readText opening (c :: read) fuel rest

/-- The digits at the start of a text. -/
def digitRun (text : List Char) : List Char × List Char :=
  (text.takeWhile Text.isAsciiDigit, text.dropWhile Text.isAsciiDigit)

/-- The fraction at the start of a text, with its point; none without a digit. -/
def fractionRun (text : List Char) : List Char × List Char :=
  match text with
  | '.' :: rest =>
      let (digits, after) := digitRun rest
      if digits.isEmpty then ([], text) else ('.' :: digits, after)
  | _ => ([], text)

/-- The exponent at the start of a text, with its mark; none without a digit. -/
def exponentRun (text : List Char) : List Char × List Char :=
  match text with
  | mark :: rest =>
      if mark = 'e' || mark = 'E' then
        let (sign, unsigned) := match rest with
          | '+' :: more => (['+'], more)
          | '-' :: more => (['-'], more)
          | _ => ([], rest)
        let (digits, after) := digitRun unsigned
        if digits.isEmpty then ([], text) else (mark :: (sign ++ digits), after)
      else ([], text)
  | [] => ([], text)

/-- The sign at the start of a text; none without a minus. -/
def signRun (text : List Char) : List Char × List Char :=
  match text with
  | '-' :: rest => (['-'], rest)
  | _ => ([], text)

/-- The whole part of a number at the start of a text: a zero, or digits. -/
def wholeRun (text : List Char) : List Char × List Char :=
  match text with
  | '0' :: rest => (['0'], rest)
  | _ => digitRun text

/-- Read a number; `start` is what was left at its start. -/
def readNumber (start : List Char) : Except Misread (Reading Value) :=
  let (sign, unsigned) := signRun start
  let (whole, afterWhole) := wholeRun unsigned
  if whole.isEmpty then .error ⟨.valueExpected, start.length⟩
  else
    let (fraction, afterFraction) := fractionRun afterWhole
    let (exponent, rest) := exponentRun afterFraction
    let spelled := String.ofList (sign ++ whole ++ fraction ++ exponent)
    if fraction.isEmpty && exponent.isEmpty then
      match Decimal.readInt? spelled with
      | some number => .ok (.int number, rest)
      | none => .error ⟨.numberTooLong, start.length⟩
    else
      match Decimal.readFloat? spelled with
      | some number => .ok (.float number, rest)
      | none => .error ⟨.valueExpected, start.length⟩

/-- The values that are written as a word. -/
def wordValues : List (List Char × Value) :=
  [("null".toList, .null), ("true".toList, .bool true), ("false".toList, .bool false),
    ("NaN".toList, .float Decimal.notANumber), ("Infinity".toList, .float Decimal.infinity),
    ("-Infinity".toList, .float (-Decimal.infinity))]

/-- Read a value that has no parts and is not a text. -/
def readScalar (text : List Char) : Except Misread (Reading Value) :=
  match wordValues.find? fun word => word.1.isPrefixOf text with
  | some (word, value) => .ok (value, text.drop word.length)
  | none => readNumber text

/-- How many lists and tables may stand inside each other. -/
def deepest : Nat := 990

mutual
/-- Read a value, inside which further lists and tables may stand `room` deep. -/
def readValue : Nat → Nat → List Char → Except Misread (Reading Value)
  | 0, _, text => .error ⟨.valueExpected, text.length⟩
  | fuel + 1, room, text =>
      match text with
      | '\x22' :: rest =>
          match readText text [] fuel rest with
          | .error misread => .error misread
          | .ok (read, after) => .ok (.text read, after)
      | '[' :: rest =>
          if room = 0 then .error ⟨.nestedTooDeep, text.length⟩
          else
            match skipLayout rest with
            | ']' :: after => .ok (.list [], after)
            | inside => readItems fuel (room - 1) [] inside
      | '\x7b' :: rest =>
          if room = 0 then .error ⟨.nestedTooDeep, text.length⟩
          else
            match skipLayout rest with
            | '\x7d' :: after => .ok (.table [], after)
            | inside => readFields fuel (room - 1) [] inside
      | _ => readScalar text

/-- Read the items of a list up to its end; `read` holds those before, last one first. -/
def readItems : Nat → Nat → List Value → List Char → Except Misread (Reading Value)
  | 0, _, _, text => .error ⟨.valueExpected, text.length⟩
  | fuel + 1, room, read, text =>
      match readValue fuel room text with
      | .error misread => .error misread
      | .ok (item, rest) =>
          match skipLayout rest with
          | ']' :: after => .ok (.list (item :: read).reverse, after)
          | ',' :: after => readItems fuel room (item :: read) (skipLayout after)
          | other => .error ⟨.commaExpected, other.length⟩

/-- Read the fields of a table up to its end; `read` holds those before. -/
def readFields :
    Nat → Nat → List (String × Value) → List Char → Except Misread (Reading Value)
  | 0, _, _, text => .error ⟨.valueExpected, text.length⟩
  | fuel + 1, room, read, text =>
      match text with
      | '\x22' :: inside =>
          match readText text [] fuel inside with
          | .error misread => .error misread
          | .ok (key, afterKey) =>
              match skipLayout afterKey with
              | ':' :: afterColon =>
                  match readValue fuel room (skipLayout afterColon) with
                  | .error misread => .error misread
                  | .ok (entry, rest) =>
                      let fields := OrderedMap.insertInto key entry read
                      match skipLayout rest with
                      | '\x7d' :: after => .ok (.table fields, after)
                      | ',' :: after => readFields fuel room fields (skipLayout after)
                      | other => .error ⟨.commaExpected, other.length⟩
              | other => .error ⟨.colonExpected, other.length⟩
      | _ => .error ⟨.nameExpected, text.length⟩
end

/-- Read a text that is one value with layout around it. -/
def read (text : List Char) : Except Misread Value :=
  if text.head? = some (Char.ofNat 0xfeff) then .error ⟨.byteOrderMark, text.length⟩
  else
    match readValue (2 * text.length + 2) deepest (skipLayout text) with
    | .error misread => .error misread
    | .ok (value, rest) =>
        match skipLayout rest with
        | [] => .ok value
        | extra => .error ⟨.extraData, extra.length⟩

/-- A fault with its line, its column and its offset in the text. -/
def Misread.message (misread : Misread) (text : List Char) : String :=
  let offset := text.length - misread.left
  let before := text.take offset
  let line := before.count '\n' + 1
  let column := (before.reverse.takeWhile (· ≠ '\n')).length + 1
  misread.fault.message ++ ": line " ++ toString line ++ " column " ++ toString column ++
    " (char " ++ toString offset ++ ")"

end Triage.Json
