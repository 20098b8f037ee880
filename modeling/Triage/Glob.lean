import Triage.Text.Search

/-!
# Globs

A glob selects paths as a whole.  A star stands for any text, a question mark for
any character, the slash and the line feed not excepted, and brackets for one
character of a set, or of its complement when an exclamation mark comes first.  A
closing bracket that comes first in a set is a member, and an opening bracket that
is never closed stands for itself; every other character stands for itself.

A hyphen between two members of a set makes them the ends of a range.  A range
whose ends are in the wrong order is dropped with both its ends; a set that is
emptied in this way selects nothing, and its complement everything.
-/

namespace Triage.Glob

set_option autoImplicit false

/-- A piece of a glob. -/
inductive Piece where
  | anyText
  | anyChar
  | literal (c : Char)
  /-- One character inside one of the closed ranges, or outside all of them. -/
  | oneOf (complement : Bool) (ranges : List (Char × Char))
deriving Repr, DecidableEq

/-! ## Sets in brackets -/

/-- Cut the body of a set at the hyphens that make ranges: never the first character,
nor one of the two behind such a hyphen.  `guarded` counts the characters that are
still no such hyphen, `chunk` holds the chunk being read, last character first. -/
def chunksFrom (guarded : Nat) (chunk : List Char) : List Char → List (List Char)
  | [] => [chunk.reverse]
  | c :: rest =>
      if guarded = 0 && c = '-' then chunk.reverse :: chunksFrom 2 [] rest
      else chunksFrom (guarded - 1) (c :: chunk) rest

/-- A hyphen at the very end makes no range and belongs to the chunk before it. -/
def attachLastHyphen : List (List Char) → List (List Char)
  | [] => []
  | [chunk, []] => [chunk ++ ['-']]
  | chunk :: rest => chunk :: attachLastHyphen rest

/-- Drop the ranges whose ends are in the wrong order, from the last one on: the chunks
around such a range become one without the two ends. -/
def dropReversed : List (List Char) → List (List Char)
  | [] => []
  | chunk :: rest =>
      match dropReversed rest with
      | [] => [chunk]
      | next :: more =>
          match chunk.getLast?, next.head? with
          | some low, some high =>
              if high < low then (chunk.dropLast ++ next.drop 1) :: more
              else chunk :: next :: more
          | _, _ => chunk :: next :: more

/-- Ranges of one character each. -/
def singles (chunk : List Char) : List (Char × Char) := chunk.map fun c => (c, c)

/-- The members of a set: the single characters of `chunk` and of the chunks behind it,
and a range over each gap between two chunks.  A gap without a character in front of
it is a hyphen that stands for itself. -/
def rangesFrom (chunk : List Char) : List (List Char) → List (Char × Char)
  | [] => singles chunk
  | next :: more =>
      match chunk.getLast?, next with
      | some low, high :: others => singles chunk.dropLast ++ (low, high) :: rangesFrom others more
      | _, _ => singles chunk ++ ('-', '-') :: rangesFrom next more

/-- The set whose body stands between the brackets. -/
def setOf (body : List Char) : Piece :=
  let guarded := if body.head? = some '!' then 2 else 1
  match dropReversed (attachLastHyphen (chunksFrom guarded [] body)) with
  | ('!' :: chunk) :: more => .oneOf true (rangesFrom chunk more)
  | chunk :: more => .oneOf false (rangesFrom chunk more)
  | [] => .oneOf false []

/-- The body of a set and what comes after its closing bracket, if it is closed. -/
def splitSet (text : List Char) : Option (List Char × List Char) :=
  let marked := match text with
    | '!' :: rest => (['!'], rest)
    | _ => ([], text)
  let opened := match marked.2 with
    | ']' :: rest => (marked.1 ++ [']'], rest)
    | rest => (marked.1, rest)
  match opened.2.dropWhile (· ≠ ']') with
  | [] => none
  | _ :: after => some (opened.1 ++ opened.2.takeWhile (· ≠ ']'), after)

/-! ## Reading and matching -/

/-- The pieces of a glob, read within `fuel` steps. -/
def piecesWithin : Nat → List Char → List Piece
  | 0, _ => []
  | _ + 1, [] => []
  | fuel + 1, c :: rest =>
      if c = '*' then .anyText :: piecesWithin fuel rest
      else if c = '?' then .anyChar :: piecesWithin fuel rest
      else if c = '[' then
        match splitSet rest with
        | none => .literal '[' :: piecesWithin fuel rest
        | some (body, after) => setOf body :: piecesWithin fuel after
      else .literal c :: piecesWithin fuel rest

/-- The pieces of a glob. -/
def pieces (glob : List Char) : List Piece := piecesWithin glob.length glob

/-- Whether a piece that stands for one character stands for `c`. -/
def Piece.accepts (c : Char) : Piece → Bool
  | .anyText => false
  | .anyChar => true
  | .literal expected => c == expected
  | .oneOf complement ranges =>
      (ranges.any fun range => range.1 ≤ c && c ≤ range.2) != complement

/-! ### Rows

Every end of the list of pieces, the whole list first and the empty one last, either
selects a text or does not.  The row of a text holds these answers, and the row of a
text with one more character in front follows from it in one pass, so that matching
takes no more steps than there are pairs of a piece and a character. -/

/-- The row of the empty text: only stars stand for it. -/
def emptyRow : List Piece → List Bool
  | [] => [true]
  | .anyText :: rest =>
      let below := emptyRow rest
      below.headD false :: below
  | _ :: rest => false :: emptyRow rest

/-- The row of a text with `c` in front, from the row of the text. -/
def nextRow (c : Char) : List Piece → List Bool → List Bool
  | [], _ => [false]
  | .anyText :: rest, row =>
      let below := nextRow c rest (row.drop 1)
      (below.headD false || row.headD false) :: below
  | piece :: rest, row =>
      (piece.accepts c && (row.drop 1).headD false) :: nextRow c rest (row.drop 1)

/-- The row of a text. -/
def rowOf (pieces : List Piece) (text : List Char) : List Bool :=
  text.foldr (fun c row => nextRow c pieces row) (emptyRow pieces)

/-- Whether the pieces stand for the whole of a text. -/
def selects (pieces : List Piece) (text : List Char) : Bool := (rowOf pieces text).headD false

/-- Without its first answer, a row is the row of the pieces behind the first one. -/
theorem rowOf_cons (piece : Piece) (rest : List Piece) (text : List Char) :
    (rowOf (piece :: rest) text).drop 1 = rowOf rest text := by
  induction text with
  | nil => cases piece <;> rfl
  | cons c more ih => cases piece <;> simp_all [rowOf, nextRow]

@[simp] theorem selects_nil (text : List Char) : selects [] text = text.isEmpty := by
  cases text <;> rfl

/-- A star stands for the empty text and takes one character after the other. -/
theorem selects_anyText_cons (rest : List Piece) (c : Char) (more : List Char) :
    selects (.anyText :: rest) (c :: more) =
      (selects rest (c :: more) || selects (.anyText :: rest) more) := by
  have tail := rowOf_cons .anyText rest more
  simp only [selects, rowOf, List.foldr_cons, nextRow, List.headD_cons] at *
  rw [tail]

/-- Whether some end of a text, the text itself included, satisfies `accepts`. -/
def anyEnd (accepts : List Char → Bool) : List Char → Bool
  | [] => accepts []
  | c :: rest => accepts (c :: rest) || anyEnd accepts rest

/-- A star stands for any text: the pieces behind it have to select some end. -/
theorem selects_anyText (rest : List Piece) (text : List Char) :
    selects (.anyText :: rest) text = anyEnd (selects rest) text := by
  induction text with
  | nil => rfl
  | cons c more ih => rw [selects_anyText_cons, ih]; rfl

/-- Every piece but a star stands for one character. -/
theorem selects_cons (piece : Piece) (rest : List Piece) (c : Char) (more : List Char)
    (single : piece ≠ .anyText) :
    selects (piece :: rest) (c :: more) = (piece.accepts c && selects rest more) := by
  have step : rowOf (piece :: rest) (c :: more) =
      (piece.accepts c && ((rowOf (piece :: rest) more).drop 1).headD false) ::
        nextRow c rest ((rowOf (piece :: rest) more).drop 1) := by
    cases piece
    · exact absurd rfl single
    all_goals rfl
  simp only [selects, step, List.headD_cons, rowOf_cons]

/-- Every piece but a star needs a character. -/
theorem selects_cons_nil (piece : Piece) (rest : List Piece) (single : piece ≠ .anyText) :
    selects (piece :: rest) [] = false := by
  cases piece <;> simp_all [selects, rowOf, emptyRow]

/-- Whether a glob selects a path. -/
def matchesChars (glob path : List Char) : Bool := selects (pieces glob) path

/-- Whether a glob selects a path. -/
def matchesPath (glob path : String) : Bool := matchesChars glob.toList path.toList

end Triage.Glob
