import Triage.Text.Search
import Triage.Value.Identity
import Triage.Verdict

/-!
# What values hold

A text holds the texts that occur in it, a list holds its items, and a table holds its
keys.  No other value holds anything, and asking it fails; so does asking a text for
something that is no text, and a table for something that names no entry.
-/

namespace Triage.Value

set_option autoImplicit false

/-- Whether a container holds an item. -/
def holds? (container item : Value) : Verdict :=
  match container, item with
  | .text whole, .text piece => .ok (Text.occurs piece whole)
  | .list items, _ => .ok (items.contains item)
  | .table fields, _ =>
      if item.namesEntry then .ok (fields.any fun field => Value.text field.1 == item)
      else .error .wrongKind
  | _, _ => .error .wrongKind

@[simp] theorem holds?_text (whole piece : String) :
    holds? (.text whole) (.text piece) = .ok (Text.occurs piece whole) := rfl

end Triage.Value
