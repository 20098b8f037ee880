import Triage.Text.Ranges

/-!
# Lines

Two readings of line ends.  Compiler output is cut at every line boundary of the
standard: the line feed and its neighbours, the information separators, the next
line character and the two Unicode separators, a carriage return followed by a
line feed being one boundary.  A text file, on the other hand, is read with its
line ends unified: a carriage return, alone or before a line feed, is a line feed.
-/

namespace Triage.Text

set_option autoImplicit false

/-- Whether a line ends at `c`. -/
def isLineBoundary (c : Char) : Bool :=
  let code := c.toNat
  (10 ≤ code && code ≤ 13) || (28 ≤ code && code ≤ 30) || code == 0x85 ||
    code == 0x2028 || code == 0x2029

/-- Collect the lines of a text; `line` is the line being read, last character first. -/
def linesFrom (line : List Char) : List Char → List (List Char)
  | [] => if line.isEmpty then [] else [line.reverse]
  | '\r' :: '\n' :: rest => line.reverse :: linesFrom [] rest
  | c :: rest =>
      if isLineBoundary c then line.reverse :: linesFrom [] rest
      else linesFrom (c :: line) rest

/-- The lines of a text without their boundaries; a boundary at the end of the text
opens no further line. -/
def lines (text : List Char) : List (List Char) := linesFrom [] text

/-- A text with each of its line ends written as a line feed. -/
def unifyLineEnds : List Char → List Char
  | [] => []
  | '\r' :: '\n' :: rest => '\n' :: unifyLineEnds rest
  | c :: rest => (if c = '\r' then '\n' else c) :: unifyLineEnds rest

/-- Unified text has no carriage return. -/
theorem not_mem_unifyLineEnds (text : List Char) : '\r' ∉ unifyLineEnds text := by
  fun_induction unifyLineEnds text with
  | case1 => simp
  | case2 rest ih => simp [ih]
  | case3 c rest _ ih =>
      simp only [List.mem_cons, not_or]
      refine ⟨?_, ih⟩
      split <;> simp_all [eq_comm]

/-- A text without carriage returns is unified already. -/
theorem unifyLineEnds_of_not_mem (text : List Char) (absent : '\r' ∉ text) :
    unifyLineEnds text = text := by
  fun_induction unifyLineEnds text with
  | case1 => rfl
  | case2 rest ih => simp at absent
  | case3 c rest _ ih =>
      simp only [List.mem_cons, not_or] at absent
      have other : c ≠ '\r' := fun same => absent.1 same.symm
      simp [other, ih absent.2]

end Triage.Text
