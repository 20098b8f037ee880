import Triage.Decimal.Places
import Triage.Diagnostic
import Triage.Scalar

/-!
# Marked-up text on a terminal

What a command prints is a list of items: lines of text, framed panels and tables, and a
line that stands while the command works.  Styles are tags in square brackets.  A score is
shown as a bar of ten blocks in the colour of its band and as a whole number, a level by a dot
in its colour.
-/

namespace Triage.Display

set_option autoImplicit false

/-- How the cells of a column are aligned. -/
inductive Alignment where
  | left
  | right
deriving Repr, DecidableEq, Inhabited

/-- The word for an alignment. -/
def Alignment.word : Alignment → String
  | .left => "left"
  | .right => "right"

/-- A piece of output. -/
inductive Item where
  | text (content : String)
  /-- A frame around a text, one blank wide on the left and the right. -/
  | panel (body title borderStyle : String)
  | table (title : String) (columns : List (String × Alignment)) (rows : List (List String))
  /-- A line about work that goes on. -/
  | progress (content : String)
deriving Repr, DecidableEq, Inhabited

/-- A text in a style. -/
def styled (style content : String) : String :=
  "[" ++ style ++ "]" ++ content ++ "[/" ++ style ++ "]"

/-- A text filled up with blanks to a width. -/
def fillTo (width : Nat) (content : String) : String :=
  content ++ String.ofList (List.replicate (width - content.length) ' ')

/-- The colour of a score. -/
def scoreColor {Number : Type} [Scalar Number] (score : Number) : String :=
  if Scalar.atMost (Scalar.ofInt 80) score then "green"
  else if Scalar.atMost (Scalar.ofInt 60) score then "yellow"
  else "red"

/-- The whole number nearest to a floating-point number, ties going to the even one. -/
def nearestWhole (number : Float) : Int :=
  match Decimal.meaning number with
  | .finite value => value.round
  | _ => 0

/-- How many blocks of a bar are filled for a score. -/
def filledBlocks (score : Float) (width : Int) : Int :=
  nearestWhole (Scalar.clamp score / 100 * Float.ofInt width)

/-- A character written some times; a count below zero counts as zero. -/
def repeated (c : Char) (count : Int) : String := String.ofList (List.replicate count.toNat c)

/-- A score as a bar. -/
def progressBar (score : Float) (width : Int) : String :=
  let filled := filledBlocks score width
  styled (scoreColor score) (repeated '█' filled ++ repeated '░' (width - filled))

/-- The width of a bar unless another one is given. -/
def standardWidth : Int := 10

/-- A score out of a hundred. -/
def outOfHundred (score : Float) : String := Decimal.fixed 0 score ++ "/100"

/-- The width of the labels on the report card. -/
def labelWidth : Nat := 22

/-- A line with a label, a bar and a score. -/
def scoreLine (label : String) (score : Float) : String :=
  "  " ++ fillTo labelWidth label ++ " " ++ progressBar score standardWidth ++ "  " ++
    outOfHundred score

/-- The dot of a level. -/
def levelIcon : Level → String
  | .high => styled "red" "●"
  | .medium => styled "yellow" "●"
  | .low => styled "blue" "●"

/-- Lines one below the other. -/
def joinLines (lines : List String) : String := "\n".intercalate lines

end Triage.Display
