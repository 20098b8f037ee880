import Triage.Text.Search

/-!
# Pieces of a text

Cutting a text at a separator splits the list of its characters (`cutAt_eq_splitOn`), so the pieces
hold what the text holds apart from its separators (`mem_of_mem_cutAt`).  A text is cut apart at
each of its separators, whatever stands on both sides (`cutAt_append_cons`); one that is cut at its
first separator alone gives what stands in front of it and all that stands behind it
(`cutFirst_append_cons`).
-/

namespace Triage.Text

set_option autoImplicit false

/-- Cutting a text is splitting the list of its characters. -/
theorem cutAt_eq_splitOn (separator : Char) (text : List Char) :
    cutAt separator text = text.splitOn separator := by
  induction text with
  | nil => rfl
  | cons c rest ih =>
      rw [cutAt, ih, List.splitOn_cons_eq_if_modifyHead]
      by_cases same : c = separator
      · simp [same]
      · rw [if_neg same, if_neg (by simpa using same)]
        cases pieces : rest.splitOn separator with
        | nil => exact absurd pieces (List.splitOn_ne_nil separator rest)
        | cons piece more => rfl

/-- The characters of a piece are those of the text, and no separator is among them. -/
theorem mem_of_mem_cutAt {separator c : Char} {text piece : List Char}
    (cut : piece ∈ cutAt separator text) (member : c ∈ piece) : c ∈ text ∧ c ≠ separator := by
  induction text generalizing piece with
  | nil => simp_all [cutAt]
  | cons first rest ih =>
      rw [cutAt] at cut
      split at cut
      · rcases List.mem_cons.1 cut with rfl | further
        · cases member
        · exact ⟨List.mem_cons_of_mem _ (ih further member).1, (ih further member).2⟩
      · next other =>
          cases pieces : cutAt separator rest with
          | nil => exact absurd pieces (cutAt_ne_nil separator rest)
          | cons second more =>
              rw [pieces] at cut ih
              rcases List.mem_cons.1 cut with rfl | further
              · rcases List.mem_cons.1 member with rfl | behind
                · exact ⟨List.mem_cons_self, other⟩
                · have found := ih List.mem_cons_self behind
                  exact ⟨List.mem_cons_of_mem _ found.1, found.2⟩
              · have found := ih (List.mem_cons_of_mem _ further) member
                exact ⟨List.mem_cons_of_mem _ found.1, found.2⟩

theorem cutAt_replicate_append (separator : Char) (count : Nat) (text : List Char) :
    cutAt separator (List.replicate count separator ++ text) =
      List.replicate count [] ++ cutAt separator text := by
  induction count with
  | zero => rfl
  | succ count ih => rw [List.replicate_succ, List.cons_append, cutAt, if_pos rfl, ih]; rfl

/-- A text that is cut at one of its separators is cut before it and behind it. -/
theorem cutAt_append_cons (separator : Char) (first second : List Char) :
    cutAt separator (first ++ separator :: second) =
      cutAt separator first ++ cutAt separator second := by
  induction first with
  | nil => exact if_pos rfl
  | cons c rest ih =>
      rw [List.cons_append, cutAt, cutAt, ih]
      split
      · rfl
      · cases pieces : cutAt separator rest with
        | nil => exact absurd pieces (cutAt_ne_nil separator rest)
        | cons piece more => rfl

/-- A text without separators is one piece. -/
theorem cutAt_of_not_mem {separator : Char} {text : List Char} (free : separator ∉ text) :
    cutAt separator text = [text] := by
  induction text with
  | nil => rfl
  | cons c rest ih =>
      obtain ⟨other, further⟩ := not_or.1 (mt List.mem_cons.2 free)
      rw [cutAt, if_neg (Ne.symm other), ih further]

/-- A text is cut at the first of its separators, whatever stands behind it. -/
theorem cutFirst_append_cons {separator : Char} {front : List Char} (free : separator ∉ front)
    (behind : List Char) :
    cutFirst separator (front ++ separator :: behind) = (front, behind) := by
  have other : ∀ c ∈ front, decide (c ≠ separator) = true := by
    intro c member
    exact decide_eq_true fun same => free (same ▸ member)
  rw [cutFirst, List.takeWhile_append_of_pos other, List.dropWhile_append_of_pos other]
  simp

end Triage.Text
