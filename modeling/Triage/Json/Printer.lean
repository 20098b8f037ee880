import Triage.Value

/-!
# Writing JSON

Reports are written as JSON text of ASCII characters only.  The wide form puts every
item on a line of its own, two spaces deeper than its container; the narrow form
has no blanks at all.  Floating-point numbers have their shortest text, and the
three values that are not finite have the names that readers of this dialect know.
-/

namespace Triage.Json

set_option autoImplicit false

open Triage.Text (hexDigits)

/-- Four hexadecimal digits behind the mark of an escaped code unit. -/
def escapedUnit (unit : Nat) : List Char := '\\' :: 'u' :: hexDigits 4 unit

/-- One character of a text: printable ASCII stands for itself, the rest is escaped, a
character beyond the basic plane as its two surrogates. -/
def escapedChar (c : Char) : List Char :=
  if c = '\x22' || c = '\\' then ['\\', c]
  else if c = '\n' then ['\\', 'n']
  else if c = '\r' then ['\\', 'r']
  else if c = '\t' then ['\\', 't']
  else if c = '\x0c' then ['\\', 'f']
  else if c = '\x08' then ['\\', 'b']
  else if 32 ≤ c.toNat && c.toNat ≤ 126 then [c]
  else if c.toNat < 0x10000 then escapedUnit c.toNat
  else
    escapedUnit (0xd800 + (c.toNat - 0x10000) / 0x400) ++
      escapedUnit (0xdc00 + (c.toNat - 0x10000) % 0x400)

/-- A text between double quotes. -/
def textLiteral (text : String) : String :=
  String.ofList ('\x22' :: (text.toList.flatMap escapedChar ++ ['\x22']))

/-- A floating-point number. -/
def floatLiteral (number : Float) : String :=
  if number.isNaN then "NaN"
  else if number.isInf then (if number < 0 then "-Infinity" else "Infinity")
  else Decimal.shortest number

/-- The literal of a value without parts. -/
def scalarLiteral : Value → String
  | .null => "null"
  | .bool truth => if truth then "true" else "false"
  | .int number => toString number
  | .float number => floatLiteral number
  | .undefined _ => floatLiteral Decimal.notANumber
  | .text text => textLiteral text
  | .moment moment => textLiteral moment.display
  | .list _ => "[]"
  | .table _ => "\x7b\x7d"

/-- A line end and the indentation of depth `depth`. -/
def lineBreak (depth : Nat) : String := String.ofList ('\n' :: List.replicate (2 * depth) ' ')

mutual
/-- The pieces of the wide form of a value inside `depth` containers. -/
def widePieces (depth : Nat) : Value → List String
  | .list (item :: rest) =>
      "[" :: lineBreak (depth + 1) ::
        (widePieces (depth + 1) item ++ (itemPieces (depth + 1) rest ++ [lineBreak depth, "]"]))
  | .table ((key, entry) :: rest) =>
      "\x7b" :: lineBreak (depth + 1) :: textLiteral key :: ": " ::
        (widePieces (depth + 1) entry ++
          (fieldPieces (depth + 1) rest ++ [lineBreak depth, "\x7d"]))
  | other => [scalarLiteral other]

/-- The pieces of the items of a list after the first. -/
def itemPieces (depth : Nat) : List Value → List String
  | [] => []
  | item :: rest => "," :: lineBreak depth :: (widePieces depth item ++ itemPieces depth rest)

/-- The pieces of the fields of a table after the first. -/
def fieldPieces (depth : Nat) : List (String × Value) → List String
  | [] => []
  | (key, entry) :: rest =>
      "," :: lineBreak depth :: textLiteral key :: ": " ::
        (widePieces depth entry ++ fieldPieces depth rest)
end

/-- The wide form of a value. -/
def wide (value : Value) : String := String.join (widePieces 0 value)

mutual
/-- The narrow form of a value. -/
def narrow : Value → String
  | .list items => "[" ++ ",".intercalate (narrowItems items) ++ "]"
  | .table fields => "\x7b" ++ ",".intercalate (narrowFields fields) ++ "\x7d"
  | other => scalarLiteral other

/-- The items of a list. -/
def narrowItems : List Value → List String
  | [] => []
  | item :: rest => narrow item :: narrowItems rest

/-- The fields of a table. -/
def narrowFields : List (String × Value) → List String
  | [] => []
  | (key, entry) :: rest => (textLiteral key ++ ":" ++ narrow entry) :: narrowFields rest
end

end Triage.Json
