import Triage.Proofs.Message.Masking
import Triage.Proofs.Text.Occurrence

/-!
# What normalizing writes into a message

A normalized message has parts that the message does not have: double quotes for single ones, and
the placeholders for numbers and names.  The placeholder for names stands between quotes, so a
part without quotes can only lie inside its word; the placeholder for numbers may stand beside any
text, and a part may overlap its word in any way (`Message.MayBeWritten`).  Every other part of a
normalized message stands in the message as it was given (`mayBeWritten_of_not_infix`): each pass of
normalizing is taken by itself, and none of them brings such a part about.
-/

namespace Triage.Message

set_option autoImplicit false

open Triage.Text

/-- A part of a normalized message may come from what normalizing writes: it has a double quote,
it overlaps the word for numbers, or it lies inside the word for names. -/
def MayBeWritten (part : List Char) : Prop :=
  quote ∈ part ∨ Overlaps part numberWord ∨ (part ≠ [] ∧ part <:+: nameWord)

instance (part : List Char) : Decidable (MayBeWritten part) :=
  inferInstanceAs (Decidable (_ ∨ _ ∨ _))

variable {part text : List Char}

/-- What a masked text starts with, its start had before if no end of it overlaps the word for
numbers. -/
theorem prefix_of_prefix_maskNumbers (apart : ¬ Overlaps part numberWord) {ending : List Char}
    (last : ending <:+ part) (starts : ending <+: maskNumbers text) : ending <+: text := by
  induction text generalizing ending with
  | nil => exact starts
  | cons c rest ih =>
      rw [maskNumbers, maskNumbersFrom] at starts
      split at starts
      · rw [if_neg Bool.false_ne_true] at starts
        rw [eq_nil_of_prefix_append apart (by decide) last starts]
        exact List.nil_prefix
      · rcases List.prefix_cons_iff.1 starts with rfl | ⟨behind, rfl, further⟩
        · exact List.nil_prefix
        · have shorter : behind <:+ part := (List.suffix_cons c behind).trans last
          exact List.cons_prefix_cons.2 ⟨rfl, ih shorter further⟩

/-- **Masking numbers brings no part about** that does not overlap the word for numbers. -/
theorem infix_of_infix_maskNumbersFrom (apart : ¬ Overlaps part numberWord) {inNumber : Bool}
    (held : part <:+: maskNumbersFrom inNumber text) : part <:+: text := by
  induction text generalizing inNumber with
  | nil => exact held
  | cons c rest ih =>
      rw [maskNumbersFrom] at held
      split at held
      · split at held
        · exact (ih held).trans (List.suffix_cons c rest).isInfix
        · have behind := infix_of_infix_append apart held
          exact (ih behind).trans (List.suffix_cons c rest).isInfix
      · next other =>
          rcases List.infix_cons_iff.1 held with here | further
          · have whole : part <+: maskNumbers (c :: rest) := by
              rwa [maskNumbers, maskNumbersFrom_cons_other (Bool.eq_false_iff.2 other)]
            exact (prefix_of_prefix_maskNumbers apart List.suffix_rfl whole).isInfix
          · exact (ih further).trans (List.suffix_cons c rest).isInfix

/-- **Masking names brings no part about** without quotes that lies outside the word for names. -/
theorem infix_of_infix_maskNames (free : quote ∉ part)
    (outside : ¬ (part ≠ [] ∧ part <:+: nameWord)) (held : part <:+: maskNames text) :
    part <:+: text := by
  induction text using byQuotes with
  | plain text absent => rwa [maskNames_of_not_mem absent] at held
  | opened before rest front back => rwa [maskNames_open front back] at held
  | quoted before name rest front inner ih =>
      rw [maskNames_first front inner] at held
      rw [infix_append_cons_iff free, infix_append_cons_iff free] at held ⊢
      rcases held with first | word | behind
      · exact .inl first
      · obtain rfl : part = [] := by
          by_contra nonempty
          exact outside ⟨nonempty, word⟩
        exact .inl List.nil_infix
      · exact .inr (.inr (ih behind))

theorem infix_of_infix_trimChars (held : part <:+: trimChars text) : part <:+: text := by
  obtain ⟨before, behind, _, _, parted⟩ := exists_blanks_around text
  rw [parted]
  exact held.trans ⟨before, behind, rfl⟩

/-- **A part of a normalized message** that normalizing cannot have written stands in the message
itself. -/
theorem infix_of_infix_normalizeChars (given : ¬ MayBeWritten part)
    (held : part <:+: normalizeChars text) : part <:+: text := by
  obtain ⟨free, apart, outside⟩ : quote ∉ part ∧ ¬ Overlaps part numberWord ∧
      ¬ (part ≠ [] ∧ part <:+: nameWord) := by
    rwa [MayBeWritten, not_or, not_or] at given
  have masked := infix_of_infix_maskNames free outside (infix_of_infix_trimChars held)
  exact infix_of_infix_substitute free (infix_of_infix_maskNumbersFrom apart masked)

/-- **A text that a normalized message has and its message does not** may be written by
normalizing. -/
theorem mayBeWritten_of_not_infix {part message : String}
    (held : part.toList <:+: (normalize message).toList)
    (absent : ¬ part.toList <:+: message.toList) : MayBeWritten part.toList := by
  by_contra given
  rw [toList_normalize] at held
  exact absent (infix_of_infix_normalizeChars given held)

/-- What a keyword has in common with a placeholder counts, wherever in the keyword it stands. -/
example : ["STRING", "\"", "Order N", "BERT", "INGOT", "Payment"].map
    (fun keyword => decide (MayBeWritten keyword.toList)) =
      [true, true, true, true, false, false] := by decide

end Triage.Message
