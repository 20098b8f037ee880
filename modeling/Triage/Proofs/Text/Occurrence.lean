import Mathlib.Data.List.Infix
import Triage.Text.Search

/-!
# Parts of a text

Searching a text finds the parts of it (`occursIn_iff`).  A part of joined texts need not be a part
of one of them, because it may stand across the joint.  It does not if a separator stands there
that the part is free of (`infix_append_cons_iff`).  Writing one character for another brings no
part about that is free of the new one (`infix_of_infix_substitute`).  Where a word stands that the
part does not overlap, it neither starts in the word nor ends there (`infix_of_infix_append`,
`eq_nil_of_prefix_append`).
-/

namespace Triage.Text

set_option autoImplicit false

/-- **Searching finds the parts of a text.** -/
theorem occursIn_iff {part text : List Char} : occursIn part text = true ↔ part <:+: text := by
  induction text with
  | nil => rw [occursIn, List.isEmpty_iff, List.infix_nil]
  | cons c rest ih =>
      rw [occursIn, Bool.or_eq_true, List.isPrefixOf_iff_prefix, ih, List.infix_cons_iff]

theorem occurs_iff {part text : String} :
    occurs part text = true ↔ part.toList <:+: text.toList := occursIn_iff

/-- A text without separators starts what stands in front of a separator. -/
theorem prefix_append_cons_iff {start before behind : List Char} {separator : Char}
    (free : separator ∉ start) : start <+: before ++ separator :: behind ↔ start <+: before := by
  constructor
  · intro starts
    rcases List.prefix_or_prefix_of_prefix starts (List.prefix_append before _) with front | beyond
    · exact front
    · obtain ⟨more, rfl⟩ := beyond
      rcases List.prefix_cons_iff.1 ((List.prefix_append_right_inj before).1 starts) with
        rfl | ⟨rest, rfl, _⟩
      · rw [List.append_nil]
      · exact absurd (List.mem_append_right _ List.mem_cons_self) free
  · exact fun starts => starts.trans (List.prefix_append before _)

/-- A part without separators stands on one side of a separator. -/
theorem infix_append_cons_iff {part before behind : List Char} {separator : Char}
    (free : separator ∉ part) :
    part <:+: before ++ separator :: behind ↔ part <:+: before ∨ part <:+: behind := by
  constructor
  · intro held
    rcases List.infix_append_iff.1 held with front | back | ⟨start, ending, rfl, first, last⟩
    · exact .inl front
    · rcases List.infix_cons_iff.1 back with here | further
      · rcases List.prefix_cons_iff.1 here with rfl | ⟨rest, rfl, _⟩
        · exact .inl (List.nil_infix)
        · exact absurd List.mem_cons_self free
      · exact .inr further
    · rcases List.prefix_cons_iff.1 last with rfl | ⟨rest, rfl, _⟩
      · rw [List.append_nil]
        exact .inl first.isInfix
      · exact absurd (List.mem_append_right _ List.mem_cons_self) free
  · rintro (front | back)
    · exact front.trans (List.prefix_append _ _).isInfix
    · exact back.trans ((List.suffix_cons _ _).trans (List.suffix_append _ _)).isInfix

/-- Substituting brings no part about that does not have the new character. -/
theorem infix_of_infix_substitute {part text : List Char} {old new : Char} (free : new ∉ part)
    (held : part <:+: substitute old new text) : part <:+: text := by
  obtain ⟨given, inside, same⟩ := List.infix_map_iff.1 held
  have absent : old ∉ given := by
    intro member
    refine free ?_
    rw [same]
    exact List.mem_map.2 ⟨old, member, if_pos rfl⟩
  have kept : given.map (fun c => if c = old then new else c) = given :=
    substitute_of_not_mem absent
  rwa [same, kept]

/-- Substituting makes no difference to the parts that have neither of the characters. -/
theorem infix_substitute_iff {part text : List Char} {old new : Char}
    (free : old ∉ part ∧ new ∉ part) : part <:+: substitute old new text ↔ part <:+: text := by
  constructor
  · exact infix_of_infix_substitute free.2
  · intro held
    have mapped : substitute old new part <:+: substitute old new text := held.map _
    rwa [substitute_of_not_mem free.1] at mapped

/-! ## Parts that do not overlap a word -/

/-- Two texts overlap: an end of one is a start of the other, or one is a part of the other. -/
def Overlaps (first second : List Char) : Prop :=
  (∃ shared ∈ first.tails, shared ≠ [] ∧ shared <+: second) ∨
    (∃ shared ∈ second.tails, shared ≠ [] ∧ shared <+: first) ∨
    (first ≠ [] ∧ first <:+: second) ∨ (second ≠ [] ∧ second <:+: first)

instance (first second : List Char) : Decidable (Overlaps first second) :=
  inferInstanceAs (Decidable (_ ∨ _))

section

variable {part word rest : List Char}

/-- A part that does not overlap a word stands behind it. -/
theorem infix_of_infix_append (apart : ¬ Overlaps part word) (held : part <:+: word ++ rest) :
    part <:+: rest := by
  by_cases nothing : part = []
  · rw [nothing]
    exact List.nil_infix
  · rcases List.infix_append_iff.1 held with inside | behind | ⟨start, ending, rfl, first, last⟩
    · exact absurd (.inr (.inr (.inl ⟨nothing, inside⟩))) apart
    · exact behind
    · by_cases none : start = []
      · rw [none]
        exact last.isInfix
      · refine absurd (.inr (.inl ⟨start, ?_, none, List.prefix_append _ _⟩)) apart
        exact (List.mem_tails _ _).2 first

/-- No end of a part that does not overlap a word starts with the word or in it. -/
theorem eq_nil_of_prefix_append (apart : ¬ Overlaps part word) (some : word ≠ [])
    {ending : List Char} (last : ending <:+ part) (starts : ending <+: word ++ rest) :
    ending = [] := by
  by_contra nonempty
  rcases List.prefix_or_prefix_of_prefix starts (List.prefix_append word rest) with inside | around
  · exact apart (.inl ⟨ending, (List.mem_tails _ _).2 last, nonempty, inside⟩)
  · exact apart (.inr (.inr (.inr ⟨some, around.isInfix.trans last.isInfix⟩)))

end

end Triage.Text
