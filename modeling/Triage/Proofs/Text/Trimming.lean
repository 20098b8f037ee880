import Mathlib.Data.List.TakeWhile
import Triage.Text.Blank
import Triage.Text.Digit
import Triage.Text.WordChar

/-!
# Trimmed texts

What is dropped at the end of a text are characters of one kind, and what is left ends with another
one or is empty (`dropEndWhile_eq_iff`).  Trimming takes the blanks off both ends of a text and
nothing else (`exists_blanks_around`), and what is left neither starts nor ends with a blank
(`isTrimmed_trimChars`).  So blanks around a text make no difference to what is left of it
(`trimChars_around`), and a text is trimmed when trimming leaves it as it is
(`trimChars_eq_self_iff`).  Blanks are neither digits nor parts of words, in any script
(`isDigit_of_isBlank`, `isWordChar_of_isBlank`).
-/

namespace Triage.Text

set_option autoImplicit false

/-- A text consists of blanks alone. -/
def AreBlank (text : List Char) : Prop := ∀ c ∈ text, isBlank c = true

instance (text : List Char) : Decidable (AreBlank text) :=
  decidable_of_iff (text.all isBlank = true) List.all_eq_true

/-- What is not blank is not in a blank text. -/
theorem AreBlank.not_mem {text : List Char} (blank : AreBlank text) {c : Char}
    (visible : isBlank c = false) : c ∉ text :=
  fun member => Bool.false_ne_true (visible.symm.trans (blank c member))

/-- A text neither starts nor ends with a blank. -/
structure IsTrimmed (text : List Char) : Prop where
  starts : ∀ c, text.head? = some c → isBlank c = false
  ends : ∀ c, text.getLast? = some c → isBlank c = false

/-! ## What is not blank -/

/-- The ranges of the blanks beyond ASCII. -/
def wideBlanks : List (Nat × Nat) :=
  [(0x85, 0x85), (0xa0, 0xa0), (0x1680, 0x1680), (0x2000, 0x200a), (0x2028, 0x2029),
    (0x202f, 0x202f), (0x205f, 0x205f), (0x3000, 0x3000)]

/-- Whether the ranges of a table hold no blank beyond ASCII. -/
def avoidsBlanks (ranges : List (Nat × Nat)) : Bool :=
  ranges.all fun range => wideBlanks.all fun blanks =>
    range.2 < blanks.1 || blanks.2 < range.1

/-- A table that avoids the blanks beyond ASCII has none of them. -/
theorem inRanges_of_isBlank {ranges : Array (Nat × Nat)}
    (avoids : avoidsBlanks ranges.toList = true) {c : Char} (blank : isBlank c = true)
    (wide : ¬ isAscii c = true) : inRanges ranges c = false := by
  have among : ∃ blanks ∈ wideBlanks, blanks.1 ≤ c.toNat ∧ c.toNat ≤ blanks.2 := by
    simp only [isBlank, isAscii, Bool.or_eq_true, Bool.and_eq_true, decide_eq_true_eq,
      beq_iff_eq] at blank wide
    simp only [wideBlanks, List.mem_cons, List.not_mem_nil, or_false, exists_eq_or_imp,
      exists_eq_left]
    omega
  obtain ⟨blanks, listed, first, last⟩ := among
  rw [Bool.eq_false_iff]
  intro held
  obtain ⟨range, member, inside⟩ := Array.any_eq_true'.1 held
  have apart := List.all_eq_true.1
    (List.all_eq_true.1 avoids range (Array.mem_toList_iff.2 member)) blanks listed
  simp only [Bool.or_eq_true, Bool.and_eq_true, decide_eq_true_eq] at apart inside
  omega

/-- No blank is a decimal digit. -/
theorem isDigit_of_isBlank {c : Char} (blank : isBlank c = true) : isDigit c = false := by
  unfold isDigit
  split
  · simp only [isBlank, isAsciiDigit, Bool.or_eq_true, Bool.and_eq_true, decide_eq_true_eq,
      beq_iff_eq] at blank ⊢
    rw [Bool.eq_false_iff]
    simp only [ne_eq, Bool.and_eq_true, decide_eq_true_eq]
    omega
  · next wide => exact inRanges_of_isBlank (by decide +kernel) blank wide

/-- No blank is a part of a word. -/
theorem isWordChar_of_isBlank {c : Char} (blank : isBlank c = true) : isWordChar c = false := by
  unfold isWordChar
  split
  · have other : c ≠ '_' := by
      rintro rfl
      exact absurd blank (by decide)
    rw [Bool.or_eq_false_iff]
    refine ⟨?_, beq_false_of_ne other⟩
    simp only [isBlank, Bool.or_eq_true, Bool.and_eq_true, decide_eq_true_eq, beq_iff_eq] at blank
    rw [Bool.eq_false_iff]
    simp only [isAsciiAlphanumeric, ne_eq, Bool.or_eq_true, Bool.and_eq_true, decide_eq_true_eq]
    omega
  · next wide => exact inRanges_of_isBlank (by decide +kernel) blank wide

/-! ## Dropping characters at an end -/

section Dropping

variable {drops : Char → Bool}

theorem dropWhile_eq_self {text : List Char}
    (kept : ∀ c, text.head? = some c → drops c = false) : text.dropWhile drops = text := by
  cases text with
  | nil => rfl
  | cons c rest => rw [List.dropWhile_cons, if_neg (by rw [kept c rfl]; exact Bool.false_ne_true)]

theorem head?_dropWhile {text : List Char} {c : Char}
    (starts : (text.dropWhile drops).head? = some c) : drops c = false := by
  have first := List.head?_dropWhile_not drops text
  rw [starts] at first
  exact first

theorem dropEndWhile_append {behind : List Char} (dropped : ∀ c ∈ behind, drops c = true)
    (text : List Char) : dropEndWhile drops (text ++ behind) = dropEndWhile drops text := by
  rw [dropEndWhile, List.reverse_append, List.dropWhile_append_of_pos, dropEndWhile]
  exact fun c member => dropped c (List.mem_reverse.1 member)

theorem dropEndWhile_eq_self {text : List Char}
    (kept : ∀ c, text.getLast? = some c → drops c = false) : dropEndWhile drops text = text := by
  rw [dropEndWhile, dropWhile_eq_self, List.reverse_reverse]
  intro c last
  rw [List.head?_reverse] at last
  exact kept c last

/-- A text is what is left of it, and what is dropped behind. -/
theorem exists_dropped (drops : Char → Bool) (text : List Char) :
    ∃ behind, (∀ c ∈ behind, drops c = true) ∧ text = dropEndWhile drops text ++ behind := by
  refine ⟨(text.reverse.takeWhile drops).reverse, fun c member => ?_, ?_⟩
  · exact List.mem_takeWhile_imp (List.mem_reverse.1 member)
  · rw [dropEndWhile, ← List.reverse_append, List.takeWhile_append_dropWhile, List.reverse_reverse]

theorem getLast?_dropEndWhile {text : List Char} {c : Char}
    (last : (dropEndWhile drops text).getLast? = some c) : drops c = false := by
  rw [dropEndWhile, List.getLast?_reverse] at last
  exact head?_dropWhile last

/-- **What is left of a text** is what stands in it before characters that are dropped, and ends
with one that is not. -/
theorem dropEndWhile_eq_iff {text kept : List Char} :
    dropEndWhile drops text = kept ↔
      (∃ behind, (∀ c ∈ behind, drops c = true) ∧ text = kept ++ behind) ∧
        ∀ c, kept.getLast? = some c → drops c = false := by
  constructor
  · rintro rfl
    exact ⟨exists_dropped drops text, fun c => getLast?_dropEndWhile⟩
  · rintro ⟨⟨behind, dropped, rfl⟩, ends⟩
    rw [dropEndWhile_append dropped, dropEndWhile_eq_self ends]

end Dropping

/-! ## Trimming -/

/-- Blanks in front of a text do not change what is left of it without its blanks. -/
theorem trimChars_append {blanks : List Char} (blank : AreBlank blanks) (text : List Char) :
    trimChars (blanks ++ text) = trimChars text := by
  rw [trimChars, List.dropWhile_append_of_pos blank]
  rfl

/-- Blanks behind a text do not change it either. -/
theorem trimChars_append_blanks (text : List Char) {blanks : List Char} (blank : AreBlank blanks) :
    trimChars (text ++ blanks) = trimChars text := by
  rw [trimChars, trimChars, List.dropWhile_append]
  split
  · next nothing =>
      have all : blanks.dropWhile isBlank = [] := List.dropWhile_eq_nil_iff.2 blank
      rw [all, List.isEmpty_iff.1 nothing]
  · exact dropEndWhile_append blank _

/-- **Blanks around a text make no difference** to what is left of it. -/
theorem trimChars_around {before behind : List Char} (first : AreBlank before)
    (last : AreBlank behind) (text : List Char) :
    trimChars (before ++ text ++ behind) = trimChars text := by
  rw [trimChars_append_blanks _ last, trimChars_append first]

/-- **Trimming takes blanks off and nothing else.** -/
theorem exists_blanks_around (text : List Char) :
    ∃ before behind, AreBlank before ∧ AreBlank behind ∧
      text = before ++ trimChars text ++ behind := by
  obtain ⟨behind, last, rest⟩ := exists_dropped isBlank (text.dropWhile isBlank)
  refine ⟨text.takeWhile isBlank, behind, fun c => List.mem_takeWhile_imp, last, ?_⟩
  rw [List.append_assoc, trimChars, ← rest, List.takeWhile_append_dropWhile]

/-- **What is left of a text is trimmed.** -/
theorem isTrimmed_trimChars (text : List Char) : IsTrimmed (trimChars text) where
  starts c first := by
    obtain ⟨behind, _, rest⟩ := exists_dropped isBlank (text.dropWhile isBlank)
    have whole : (text.dropWhile isBlank).head? = some c := by
      rw [rest, List.head?_append]
      change ((trimChars text).head?.or behind.head?) = some c
      rw [first, Option.some_or]
    exact head?_dropWhile whole
  ends _ last := getLast?_dropEndWhile last

/-- A text is trimmed when trimming leaves it as it is. -/
theorem trimChars_eq_self_iff {text : List Char} : trimChars text = text ↔ IsTrimmed text := by
  constructor
  · intro same
    exact same ▸ isTrimmed_trimChars text
  · intro trimmed
    rw [trimChars, dropWhile_eq_self trimmed.starts, dropEndWhile_eq_self trimmed.ends]

instance (text : List Char) : Decidable (IsTrimmed text) :=
  decidable_of_iff _ trimChars_eq_self_iff

/-- Nothing is left of a text when it is blank. -/
theorem trimChars_eq_nil_iff {text : List Char} : trimChars text = [] ↔ AreBlank text := by
  constructor
  · intro nothing c member
    obtain ⟨before, behind, first, last, parts⟩ := exists_blanks_around text
    rw [parts, nothing, List.append_nil] at member
    exact (List.mem_append.1 member).elim (first c) (last c)
  · intro blank
    have whole := trimChars_append blank []
    rwa [List.append_nil] at whole

end Triage.Text
