/-!
# Searching and cutting texts

Occurrences of one text in another and the cuts of a text at a separator, on lists
of characters.  The empty text occurs everywhere; cutting at a separator keeps
empty pieces, so that joining the pieces again gives the text back.
-/

namespace Triage.Text

set_option autoImplicit false

/-- Whether `pattern` occurs in a text as a contiguous part. -/
def occursIn (pattern : List Char) : List Char → Bool
  | [] => pattern.isEmpty
  | c :: rest => pattern.isPrefixOf (c :: rest) || occursIn pattern rest

/-- Whether `pattern` occurs in `text` as a contiguous part. -/
def occurs (pattern text : String) : Bool := occursIn pattern.toList text.toList

/-- Cut a text at every `separator`; there is always one piece more than separators. -/
def cutAt (separator : Char) : List Char → List (List Char)
  | [] => [[]]
  | c :: rest =>
      if c = separator then [] :: cutAt separator rest
      else
        match cutAt separator rest with
        | [] => [[c]]
        | piece :: pieces => (c :: piece) :: pieces

/-- Cut a text at every `separator`. -/
def cut (separator : Char) (text : String) : List String :=
  (cutAt separator text.toList).map String.ofList

/-- The text before the first `separator`, and the text after it, empty when there
is no separator. -/
def cutFirst (separator : Char) (text : List Char) : List Char × List Char :=
  (text.takeWhile (· ≠ separator), (text.dropWhile (· ≠ separator)).drop 1)

/-- Write the pieces one after the other with `separator` in between. -/
def joinWith (separator : List Char) : List (List Char) → List Char
  | [] => []
  | [piece] => piece
  | piece :: more => piece ++ separator ++ joinWith separator more

/-- Write `new` for every `old`. -/
def substitute (old new : Char) (text : List Char) : List Char :=
  text.map fun c => if c = old then new else c

/-- A path written with backslashes, written with slashes. -/
def slashed (text : String) : String := String.ofList (substitute '\\' '/' text.toList)

/-- A text without the old character is left as it is. -/
theorem substitute_of_not_mem {old new : Char} {text : List Char} (absent : old ∉ text) :
    substitute old new text = text := by
  have kept : ∀ c ∈ text, (if c = old then new else c) = id c := by
    intro c member
    exact if_neg fun same : c = old => absent (same ▸ member)
  rw [substitute, List.map_congr_left kept, List.map_id]

theorem cutAt_ne_nil (separator : Char) (text : List Char) : cutAt separator text ≠ [] := by
  cases text with
  | nil => simp [cutAt]
  | cons c rest =>
      simp only [cutAt]
      split
      · simp
      · split <;> simp

/-- Joining the pieces of a cut gives the text back. -/
theorem joinWith_cutAt (separator : Char) (text : List Char) :
    joinWith [separator] (cutAt separator text) = text := by
  induction text with
  | nil => rfl
  | cons c rest ih =>
      simp only [cutAt]
      have someCut := cutAt_ne_nil separator rest
      split
      · next same =>
          subst same
          cases pieces : cutAt c rest with
          | nil => exact absurd pieces someCut
          | cons piece more =>
              rw [pieces] at ih
              simp [joinWith, ih]
      · split
        · next none => exact absurd none someCut
        · next piece more found =>
            rw [found] at ih
            cases more with
            | nil => simp_all [joinWith]
            | cons next others => simp_all [joinWith]

end Triage.Text
