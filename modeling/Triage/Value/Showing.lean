import Triage.Decimal.Numeral
import Triage.Failure

/-!
# What can be shown

Whole numbers may be of any size, and a setting that is written with a power of two as its
base can be larger than any numeral allows.  Such a number is kept, compared and counted
with like any other, but it has no text, and so neither has a list or a table that holds it
at any depth.  Whoever is about to show a value asks `Value.checkShown` before, and whoever
files an entry of a report under a value asks `Value.checkEntryName`.
-/

namespace Triage.Value

set_option autoImplicit false

mutual
/-- Whether a value has a text: every whole number in it has a numeral. -/
def hasText : Value → Bool
  | .int number => Decimal.hasNumeral number
  | .list items => itemsHaveText items
  | .table fields => fieldsHaveText fields
  | .null | .bool _ | .float _ | .undefined _ | .text _ | .moment _ => true

/-- Whether the items of a list have a text. -/
def itemsHaveText : List Value → Bool
  | [] => true
  | item :: rest => item.hasText && itemsHaveText rest

/-- Whether the entries of a table have a text. -/
def fieldsHaveText : List (String × Value) → Bool
  | [] => true
  | (_, entry) :: rest => entry.hasText && fieldsHaveText rest
end

/-- A list has a text when all its items have one. -/
theorem hasText_list (items : List Value) : (list items).hasText = items.all hasText := by
  rw [hasText]
  induction items with
  | nil => rfl
  | cons item rest ih => rw [itemsHaveText, List.all_cons, ih]

/-- A table has a text when all its entries have one. -/
theorem hasText_table (fields : List (String × Value)) :
    (table fields).hasText = fields.all fun field => field.2.hasText := by
  rw [hasText]
  induction fields with
  | nil => rfl
  | cons field rest ih => rw [fieldsHaveText, List.all_cons, ih]

/-- Fail unless a value can be shown. -/
def checkShown (value : Value) : Except Failure Unit :=
  if value.hasText then .ok () else .error .invalidValue

@[simp] theorem checkShown_text (content : String) :
    (text content).checkShown = .ok () := by simp [checkShown, hasText]

/-- Fail unless an entry of a report can be filed under a value: no report is written with a
moment, a list or a table for a name. -/
def checkEntryName : Value → Except Failure Unit
  | .moment _ | .list _ | .table _ => .error .wrongKind
  | name => name.checkShown

end Triage.Value
