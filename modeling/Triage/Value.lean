import Triage.Decimal.Numeral
import Triage.Decimal.Shortest
import Triage.Moment
import Triage.OrderedMap
import Triage.Text.Quoted

/-!
# Values of data files

Configuration files, diagnostics files and reports hold values of one kind: nothing,
truth values, whole numbers of any size, floating-point numbers, texts, lists,
tables and, in configuration files only, dates and times.  A table remembers the
order of its keys.  A configuration file may also hold undefined numbers; each of them
remembers its place, for no two undefined numbers are the same.

A value can be shown in two ways.  `Value.inspect` writes texts between quotes, at
any depth, and is used inside error messages; `Value.display` shows a text that
stands by itself as it is.
-/

namespace Triage

set_option autoImplicit false

/-- A value of a data file. -/
inductive Value where
  | null
  | bool (truth : Bool)
  | int (number : Int)
  | float (number : Float)
  /-- An undefined number, known by how much of its file was left at its place. -/
  | undefined (place : Nat)
  | text (content : String)
  | list (items : List Value)
  | table (fields : List (String × Value))
  | moment (instant : Moment)
deriving Inhabited

namespace Value

/-- The value of a key of a table. -/
def field? (key : String) : Value → Option Value
  | .table fields => OrderedMap.findIn key fields
  | _ => none

/-- Whether a value is nothing. -/
def isNull : Value → Bool
  | .null => true
  | _ => false

/-- Whether a value counts as true: zero and everything empty count as false. -/
def isTruthy : Value → Bool
  | .null => false
  | .bool truth => truth
  | .int number => number != 0
  | .float number => !(number == 0)
  | .undefined _ => true
  | .text content => !content.isEmpty
  | .list items => !items.isEmpty
  | .table fields => !fields.isEmpty
  | .moment _ => true

mutual
/-- A value with all its texts between quotes. -/
def inspect : Value → String
  | .null => "None"
  | .bool truth => if truth then "True" else "False"
  | .int number => toString number
  | .float number => Decimal.shortest number
  | .undefined _ => Decimal.shortest Decimal.notANumber
  | .text content => Text.quoted content
  | .list items => "[" ++ ", ".intercalate (inspectItems items) ++ "]"
  | .table fields => "\x7b" ++ ", ".intercalate (inspectFields fields) ++ "\x7d"
  | .moment instant => instant.inspect

/-- The items of a list with all their texts between quotes. -/
def inspectItems : List Value → List String
  | [] => []
  | item :: rest => item.inspect :: inspectItems rest

/-- The fields of a table with all their texts between quotes. -/
def inspectFields : List (String × Value) → List String
  | [] => []
  | (key, entry) :: rest => (Text.quoted key ++ ": " ++ entry.inspect) :: inspectFields rest
end

/-- A value as a text; a text is shown as it is. -/
def display : Value → String
  | .text content => content
  | .moment instant => instant.display
  | other => other.inspect

end Value

end Triage
