import Triage.Display.Escape
import Triage.Display.Markup

/-!
# Items without styles

Items as lines of plain text: tags are left out, an escaped bracket stands for itself,
a panel is its title above its body, and the cells of a table stand in columns.
-/

namespace Triage.Display

set_option autoImplicit false

/-- Leave the tags out of a text; `inTag` tells whether a tag is being read. -/
def unstyledFrom (inTag : Bool) : List Char → List Char
  | [] => []
  | '\\' :: '[' :: rest =>
      if inTag then unstyledFrom true rest else '[' :: unstyledFrom false rest
  | c :: rest =>
      if inTag then unstyledFrom (c ≠ ']') rest
      else if c = '[' && opensTag rest then unstyledFrom true rest
      else c :: unstyledFrom false rest

/-- A text without its tags. -/
def unstyled (text : String) : String := String.ofList (unstyledFrom false text.toList)

/-- A cell filled up to the width of its column. -/
def cellText (alignment : Alignment) (width : Nat) (cell : String) : String :=
  match alignment with
  | .left => fillTo width cell
  | .right => String.ofList (List.replicate (width - cell.length) ' ') ++ cell

/-- The width of the column at an index. -/
def columnWidth (rows : List (List String)) (index : Nat) : Nat :=
  (rows.map fun row => (row[index]?.getD "").length).foldl max 0

/-- The lines of a table. -/
def tableLines (title : String) (columns : List (String × Alignment))
    (rows : List (List String)) : List String :=
  let shown := columns.map Prod.fst :: rows.map fun row => row.map unstyled
  unstyled title :: shown.map fun row =>
    "  ".intercalate (columns.zipIdx.map fun (column, index) =>
      cellText column.2 (columnWidth shown index) (row[index]?.getD ""))

/-- The lines of an item. -/
def Item.lines : Item → List String
  | .text content => [unstyled content]
  | .panel body title _ => [unstyled title, unstyled body]
  | .table title columns rows => tableLines title columns rows
  | .progress content => [unstyled content]

end Triage.Display
