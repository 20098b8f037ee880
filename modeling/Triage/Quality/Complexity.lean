import Triage.Scalar
import Triage.SourceText
import Triage.SourceTree

/-!
# The complexity of a code base

Complexity is estimated from the density of branches: the number of branching points
in a hundred lines.  Up to ten of them score a hundred, and every one beyond costs two
and a half.  Files that cannot be read do not count.  Grades are letters, each with
the lowest score that earns it.
-/

namespace Triage

set_option autoImplicit false

variable {Number : Type} [Scalar Number]

/-- The letter of a score. -/
def gradeFor (score : Number) : String :=
  if Scalar.atMost (Scalar.ofInt 90) score then "A"
  else if Scalar.atMost (Scalar.ofInt 80) score then "B"
  else if Scalar.atMost (Scalar.ofInt 70) score then "C"
  else if Scalar.atMost (Scalar.ofInt 60) score then "D"
  else "F"

/-- The number of lines of a text: one more than its line feeds. -/
def lineCount (text : List Char) : Nat := text.count '\n' + 1

/-- The score of a number of branching points in a number of lines. -/
def complexityScore (branches lines : Nat) : Number :=
  if lines = 0 then Scalar.ofInt 100
  else
    let density : Number := Scalar.ofCount (branches * 100) / Scalar.ofCount lines
    let excess := Scalar.greater (Scalar.ofInt 0) (density - Scalar.ofInt 10)
    Scalar.clamp (Scalar.ofInt 100 - excess * Scalar.ofRatio 5 2)

/-- The complexity score of some texts. -/
def complexityOf (texts : List (List Char)) : Number :=
  complexityScore ((texts.map SourceText.branches).foldl (· + ·) 0)
    ((texts.map lineCount).foldl (· + ·) 0)

/-- The texts of the files at some places, those that can be read. -/
def readableTexts (disk : Disk) (places : List Place) : List (List Char) :=
  places.filterMap fun place => (disk.readSource place).toOption.map String.toList

/-- The places whose files cannot be read. -/
def unreadablePlaces (disk : Disk) (places : List Place) : List Place :=
  places.filter fun place => (disk.readSource place).toOption.isNone

/-- The complexity score of a source tree. -/
def estimateComplexity (disk : Disk) (tree : SourceTree) : Number :=
  complexityOf (readableTexts disk (tree.files disk))

end Triage
