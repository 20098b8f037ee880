import Triage.Text.Lines

/-!
# The lines of joined pieces

Pieces without line boundaries are the lines of what they are joined to, except that an
empty piece at the end opens no line (`lines_intercalate`).
-/

namespace Triage.Text

set_option autoImplicit false

theorem isLineBoundary_newline : isLineBoundary '\n' = true := by decide

/-- A character at which no line ends is read into the line. -/
theorem linesFrom_cons_of_clean {c : Char} (clean : isLineBoundary c = false)
    (line rest : List Char) : linesFrom line (c :: rest) = linesFrom (c :: line) rest := by
  rw [linesFrom]
  · rw [if_neg (by simp [clean])]
  · rintro _ rfl
    exact absurd clean (by decide)

theorem linesFrom_newline (line rest : List Char) :
    linesFrom line ('\n' :: rest) = line.reverse :: linesFrom [] rest := by
  rw [linesFrom]
  · rw [if_pos isLineBoundary_newline]
  · rintro _ same
    exact absurd same (by decide)

/-- A piece without line boundaries is read up to the line feed behind it. -/
theorem linesFrom_append {piece : List Char} (clean : ∀ c ∈ piece, isLineBoundary c = false)
    (line rest : List Char) :
    linesFrom line (piece ++ '\n' :: rest) = (line.reverse ++ piece) :: linesFrom [] rest := by
  induction piece generalizing line with
  | nil => rw [List.nil_append, linesFrom_newline, List.append_nil]
  | cons c piece ih =>
      rw [List.cons_append, linesFrom_cons_of_clean (clean c (by simp)),
        ih fun other member => clean other (by simp [member])]
      simp

/-- A text without line boundaries is a line, unless it is empty. -/
theorem linesFrom_of_clean {piece : List Char} (clean : ∀ c ∈ piece, isLineBoundary c = false)
    (line : List Char) :
    linesFrom line piece =
      if (line.reverse ++ piece).isEmpty then [] else [line.reverse ++ piece] := by
  induction piece generalizing line with
  | nil => simp [linesFrom]
  | cons c piece ih =>
      rw [linesFrom_cons_of_clean (clean c (by simp)),
        ih fun other member => clean other (by simp [member])]
      simp

/-- **The lines of joined pieces are the pieces**, up to an empty one at the end. -/
theorem lines_intercalate {pieces : List (List Char)}
    (clean : ∀ piece ∈ pieces, ∀ c ∈ piece, isLineBoundary c = false) :
    ∃ ending, (ending = [] ∨ ending = [[]]) ∧
      pieces = lines (['\n'].intercalate pieces) ++ ending := by
  unfold lines
  induction pieces with
  | nil => exact ⟨[], .inl rfl, rfl⟩
  | cons piece rest ih =>
      have here := clean piece (by simp)
      cases rest with
      | nil =>
          rw [List.intercalate_singleton, linesFrom_of_clean here]
          cases piece with
          | nil => exact ⟨[[]], .inr rfl, rfl⟩
          | cons c piece => exact ⟨[], .inl rfl, rfl⟩
      | cons next others =>
          obtain ⟨ending, short, split⟩ := ih fun other member => clean other (by simp [member])
          refine ⟨ending, short, ?_⟩
          rw [List.intercalate_cons_cons, List.append_assoc, List.singleton_append,
            linesFrom_append here, List.cons_append, ← split]
          rfl

end Triage.Text
