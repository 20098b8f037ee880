import Triage.Failure
import Triage.Text.Search

/-!
# Values as settings

A setting is read leniently: a whole number may be written as a text or with a
fraction, which is cut off; a list may be given as a text, which stands for its
characters, or as a table, which stands for its keys.  What cannot be read fails with
the reason.
-/

namespace Triage.Value

set_option autoImplicit false

/-- A value as a whole number. -/
def toInt : Value → Except Failure Int
  | .bool truth => .ok (if truth then 1 else 0)
  | .int number => .ok number
  | .float number =>
      match Decimal.meaning number with
      | .undefined => .error .invalidValue
      | .infinite _ => .error .infiniteNumber
      | .finite value => .ok value.truncate
  | .undefined _ => .error .invalidValue
  | .text content =>
      match Decimal.readInt? content with
      | some number => .ok number
      | none => .error .invalidValue
  | _ => .error .wrongKind

/-- A value as a floating-point number. -/
def toFloat : Value → Except Failure Float
  | .bool truth => .ok (if truth then 1 else 0)
  | .int number =>
      match Decimal.ofInt? number with
      | some size => .ok size
      | none => .error .infiniteNumber
  | .float number => .ok number
  | .undefined _ => .ok Decimal.notANumber
  | .text content =>
      match Decimal.readFloat? content with
      | some number => .ok number
      | none => .error .invalidValue
  | _ => .error .wrongKind

/-- A value as a list. -/
def toItems : Value → Except Failure (List Value)
  | .list items => .ok items
  | .text content => .ok (content.toList.map fun c => .text (String.singleton c))
  | .table fields => .ok (fields.map fun field => .text field.1)
  | _ => .error .wrongKind

/-- A value that has to be a text, and how anything else fails. -/
def textOr (failure : Failure) : Value → Except Failure String
  | .text content => .ok content
  | _ => .error failure

/-- A value that has to be a text. -/
def toText (value : Value) : Except Failure String := value.textOr .wrongKind

/-- Whether a value is a given text. -/
def isText (expected : String) : Value → Bool
  | .text content => content == expected
  | _ => false

/-- Look a key up in a value.  A text or a list may hold the key without being a table;
then the key cannot be looked up, and otherwise it is merely absent. -/
def lookup (key : String) : Value → Except Failure (Option Value)
  | .table fields => .ok (OrderedMap.findIn key fields)
  | .text content => if Text.occurs key content then .error .wrongKind else .ok none
  | .list items => if items.any (isText key) then .error .wrongKind else .ok none
  | _ => .error .wrongKind

end Triage.Value
