import Mathlib.Data.List.Infix
import Triage.Glob

/-!
# What a glob stands for

A glob is read as a list of pieces, and its pieces stand for a text one behind the other: a star
for any part of it, every other piece for one character (`Fits`).  The matching by rows decides
this relation (`selects_iff`), so a glob selects a path exactly when its pieces stand for the
whole of it.

Characters without a special meaning are read as themselves (`pieces_append_of_isPlain`), so a
plain text between two stars is looked for as a part (`fits_around_iff`), and what stands behind
two stars and a slash is looked for behind a slash (`fits_anyDirectory_iff`).
-/

namespace Triage.Glob

set_option autoImplicit false

/-- Pieces stand for a text, one behind the other and for the whole of it. -/
inductive Fits : List Piece → List Char → Prop where
  | empty : Fits [] []
  | anyText {rest : List Piece} {behind : List Char} (before : List Char) :
      Fits rest behind → Fits (.anyText :: rest) (before ++ behind)
  | oneChar {piece : Piece} {c : Char} {rest : List Piece} {behind : List Char} :
      piece.accepts c = true → Fits rest behind → Fits (piece :: rest) (c :: behind)

/-! ## The matching decides the relation -/

/-- The ends of a text are what stands behind some part of it. -/
theorem anyEnd_iff {accepts : List Char → Bool} {text : List Char} :
    anyEnd accepts text = true ↔
      ∃ before behind, text = before ++ behind ∧ accepts behind = true := by
  induction text with
  | nil =>
      constructor
      · intro here
        exact ⟨[], [], rfl, here⟩
      · rintro ⟨before, behind, parted, here⟩
        obtain ⟨rfl, rfl⟩ := List.append_eq_nil_iff.1 parted.symm
        exact here
  | cons c rest ih =>
      rw [anyEnd, Bool.or_eq_true, ih]
      constructor
      · rintro (whole | ⟨before, behind, rfl, here⟩)
        · exact ⟨[], c :: rest, rfl, whole⟩
        · exact ⟨c :: before, behind, rfl, here⟩
      · rintro ⟨before, behind, parted, here⟩
        cases before with
        | nil => exact .inl (parted ▸ here)
        | cons first before =>
            obtain ⟨rfl, rfl⟩ := List.cons.inj parted
            exact .inr ⟨before, behind, rfl, here⟩

/-- Stars and what stands behind them part the text. -/
theorem fits_anyText_iff {rest : List Piece} {text : List Char} :
    Fits (.anyText :: rest) text ↔ ∃ before behind, text = before ++ behind ∧ Fits rest behind := by
  constructor
  · intro fits
    cases fits with
    | anyText before further => exact ⟨before, _, rfl, further⟩
    | oneChar accepted further => cases accepted
  · rintro ⟨before, behind, rfl, further⟩
    exact .anyText before further

/-- Every piece but a star stands for the first character. -/
theorem fits_cons_iff {piece : Piece} (single : piece ≠ .anyText) {rest : List Piece}
    {text : List Char} :
    Fits (piece :: rest) text ↔
      ∃ c behind, text = c :: behind ∧ piece.accepts c = true ∧ Fits rest behind := by
  constructor
  · intro fits
    cases fits with
    | anyText before further => exact absurd rfl single
    | oneChar accepted further => exact ⟨_, _, rfl, accepted, further⟩
  · rintro ⟨c, behind, rfl, accepted, further⟩
    exact .oneChar accepted further

/-- **The pieces of a glob are matched against the whole of a text.** -/
theorem selects_iff {pieces : List Piece} {text : List Char} :
    selects pieces text = true ↔ Fits pieces text := by
  induction pieces generalizing text with
  | nil =>
      rw [selects_nil, List.isEmpty_iff]
      constructor
      · rintro rfl
        exact .empty
      · intro fits
        cases fits
        rfl
  | cons piece rest ih =>
      by_cases star : piece = .anyText
      · subst star
        simp only [selects_anyText, anyEnd_iff, fits_anyText_iff, ih]
      · rw [fits_cons_iff star]
        cases text with
        | nil => simp [selects_cons_nil piece rest star]
        | cons c behind => simp [selects_cons piece rest c behind star, ih]

theorem matchesChars_iff {glob path : List Char} :
    matchesChars glob path = true ↔ Fits (pieces glob) path := selects_iff

/-! ## Plain text in a glob -/

/-- No character of a text has a special meaning in a glob. -/
def IsPlain (text : List Char) : Prop := ∀ c ∈ text, c ≠ '*' ∧ c ≠ '?' ∧ c ≠ '['

instance (text : List Char) : Decidable (IsPlain text) :=
  List.decidableBAll (fun c => c ≠ '*' ∧ c ≠ '?' ∧ c ≠ '[') text

@[simp] theorem pieces_star (rest : List Char) : pieces ('*' :: rest) = .anyText :: pieces rest :=
  rfl

/-- **Plain text is read as itself**, whatever stands behind it. -/
theorem pieces_append_of_isPlain {text : List Char} (plain : IsPlain text) (rest : List Char) :
    pieces (text ++ rest) = text.map .literal ++ pieces rest := by
  induction text with
  | nil => rfl
  | cons c text ih =>
      obtain ⟨star, mark, bracket⟩ := plain c List.mem_cons_self
      have behind := ih fun other member => plain other (List.mem_cons_of_mem c member)
      rw [List.map_cons, List.cons_append, List.cons_append, ← behind]
      simp [pieces, piecesWithin, star, mark, bracket]

/-- A plain text stands for itself. -/
theorem fits_literals_iff {text : List Char} {rest : List Piece} {path : List Char} :
    Fits (text.map .literal ++ rest) path ↔ ∃ behind, path = text ++ behind ∧ Fits rest behind := by
  induction text generalizing path with
  | nil => simp
  | cons c text ih =>
      rw [List.map_cons, List.cons_append, fits_cons_iff (by simp)]
      simp only [ih, Piece.accepts, beq_iff_eq, List.cons_append]
      constructor
      · rintro ⟨first, _, rfl, rfl, behind, rfl, further⟩
        exact ⟨behind, rfl, further⟩
      · rintro ⟨behind, rfl, further⟩
        exact ⟨c, _, rfl, rfl, behind, rfl, further⟩

/-- **A plain text between two stars** is looked for as a part of the path. -/
theorem fits_around_iff {text : List Char} (plain : IsPlain text) {path : List Char} :
    Fits (pieces ('*' :: (text ++ ['*']))) path ↔ text <:+: path := by
  rw [pieces_star, pieces_append_of_isPlain plain, fits_anyText_iff]
  simp only [fits_literals_iff, pieces_star, fits_anyText_iff]
  constructor
  · rintro ⟨before, _, rfl, _, rfl, behind, _, rfl, _⟩
    exact ⟨before, _, List.append_assoc before text _⟩
  · rintro ⟨before, behind, rfl⟩
    exact ⟨before, _, List.append_assoc before text behind, behind, rfl, behind, [],
      (List.append_nil behind).symm, .empty⟩

/-- **What stands behind two stars and a slash** stands for what is behind some slash of the
path. -/
theorem fits_anyDirectory_iff {glob path : List Char} :
    Fits (pieces ('*' :: '*' :: '/' :: glob)) path ↔
      ∃ before behind, path = before ++ '/' :: behind ∧ Fits (pieces glob) behind := by
  have plain : IsPlain ['/'] := by decide
  have slash : pieces ('/' :: glob) = ['/'].map .literal ++ pieces glob :=
    pieces_append_of_isPlain plain glob
  simp only [pieces_star, slash, fits_anyText_iff, fits_literals_iff]
  constructor
  · rintro ⟨first, _, rfl, second, _, rfl, behind, rfl, further⟩
    exact ⟨first ++ second, behind, by simp, further⟩
  · rintro ⟨before, behind, rfl, further⟩
    exact ⟨before, _, rfl, [], _, rfl, behind, rfl, further⟩

end Triage.Glob
