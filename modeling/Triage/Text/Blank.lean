import Triage.Text.Ranges

/-!
# Blanks

The white space of a text: the ASCII layout and separator controls, the space, and
the separators of other scripts.  The zero-width space and the byte order mark are
not blank.  A trimmed text neither starts nor ends with a blank, and a text that
consists of blanks alone is a blank text.
-/

namespace Triage.Text

set_option autoImplicit false

/-- Whether `c` is white space. -/
def isBlank (c : Char) : Bool :=
  let code := c.toNat
  (9 ≤ code && code ≤ 13) || (28 ≤ code && code ≤ 32) || code == 0x85 || code == 0xa0 ||
    code == 0x1680 || (0x2000 ≤ code && code ≤ 0x200a) || code == 0x2028 || code == 0x2029 ||
    code == 0x202f || code == 0x205f || code == 0x3000

/-- Drop the characters at the end that satisfy `drops`. -/
def dropEndWhile (drops : Char → Bool) (text : List Char) : List Char :=
  (text.reverse.dropWhile drops).reverse

/-- A text without the blanks at both its ends. -/
def trimChars (text : List Char) : List Char := dropEndWhile isBlank (text.dropWhile isBlank)

/-- A text without the blanks at both its ends. -/
def trim (text : String) : String := String.ofList (trimChars text.toList)

/-- Collect the words of a text; `word` is the word being read, last character first. -/
def wordsFrom (word : List Char) : List Char → List (List Char)
  | [] => if word.isEmpty then [] else [word.reverse]
  | c :: rest =>
      if isBlank c then
        if word.isEmpty then wordsFrom [] rest else word.reverse :: wordsFrom [] rest
      else wordsFrom (c :: word) rest

/-- The maximal runs of characters that are not blank. -/
def words (text : String) : List String := (wordsFrom [] text.toList).map String.ofList

end Triage.Text
