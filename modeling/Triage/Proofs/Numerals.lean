import Mathlib.Algebra.Group.Nat.Defs
import Triage.Decimal.Numeral

/-!
# Whole numbers and their digits

A whole number is written with the ASCII digits of its size behind a sign if it needs one.
The value of these digits is the size again (`ofDigitValues_toDigits`), so different numbers
are written differently (`toString_int_injective`), and a number that has a numeral is read
back from what was written (`readInt?_toString`).
-/

namespace Triage

set_option autoImplicit false

open Triage.Text

/-! ## ASCII digits -/

theorem isAscii_of_isAsciiDigit {c : Char} (digit : isAsciiDigit c = true) : isAscii c = true := by
  simp only [isAsciiDigit, Bool.and_eq_true, decide_eq_true_eq] at digit
  simp only [isAscii, decide_eq_true_eq]
  omega

/-- An ASCII digit is a decimal digit. -/
theorem isDigit_of_isAsciiDigit {c : Char} (digit : isAsciiDigit c = true) : isDigit c = true := by
  rw [isDigit, if_pos (isAscii_of_isAsciiDigit digit), digit]

/-- The value of an ASCII digit is its distance from zero. -/
theorem digitValue?_of_isAsciiDigit {c : Char} (digit : isAsciiDigit c = true) :
    digitValue? c = some (c.toNat - 48) := by
  rw [digitValue?, if_pos (isAscii_of_isAsciiDigit digit), if_pos digit]

theorem filterMap_digitValue? {digits : List Char}
    (ascii : ∀ c ∈ digits, isAsciiDigit c = true) :
    digits.filterMap digitValue? = digits.map fun c => c.toNat - 48 := by
  induction digits with
  | nil => rfl
  | cons c rest ih =>
      rw [List.filterMap_cons_some (digitValue?_of_isAsciiDigit (ascii c (by simp))),
        ih fun other member => ascii other (by simp [member]), List.map_cons]

/-- ASCII digits up to the end of a text are read as their values. -/
theorem digitValues?_of_isAsciiDigit {digits : List Char}
    (ascii : ∀ c ∈ digits, isAsciiDigit c = true) :
    Decimal.digitValues? true digits = some (digits.map fun c => c.toNat - 48) := by
  induction digits with
  | nil => rfl
  | cons c rest ih =>
      rw [Decimal.digitValues?, digitValue?_of_isAsciiDigit (ascii c (by simp))]
      simp only [ih fun other member => ascii other (by simp [member]), Option.map_some,
        List.map_cons]

/-! ## The digits of a number -/

/-- A number is written with ASCII digits. -/
theorem isAsciiDigit_of_mem_toDigits {number : Nat} {c : Char}
    (member : c ∈ Nat.toDigits 10 number) : isAsciiDigit c = true := by
  have digit := Nat.isDigit_of_mem_toDigits (by decide) (by decide) member
  simp only [Char.isDigit, Bool.and_eq_true, decide_eq_true_eq, UInt32.le_iff_toNat_le] at digit
  simp only [isAsciiDigit, Bool.and_eq_true, decide_eq_true_eq]
  exact digit

/-- The value of the digits of a number is the number. -/
theorem ofDigitValues_toDigits (number : Nat) :
    Decimal.ofDigitValues ((Nat.toDigits 10 number).map fun c => c.toNat - 48) = number := by
  calc Decimal.ofDigitValues ((Nat.toDigits 10 number).map fun c => c.toNat - 48)
      = Nat.ofDigitChars 10 (Nat.toDigits 10 number) 0 := by
        simp [Decimal.ofDigitValues, Nat.ofDigitChars_eq_foldl, List.foldl_map, Nat.mul_comm]
    _ = number := Nat.ofDigitChars_ten_toDigits

/-- A number below the power has no more digits than the exponent says. -/
theorem length_toDigits_le {number : Nat} (short : number < 10 ^ Decimal.maxDigits) :
    (Nat.toDigits 10 number).length ≤ Decimal.maxDigits :=
  (Nat.length_toDigits_le_iff (by decide) (by decide)).2 short

/-- A number has a numeral when its size is below the power. -/
theorem hasNumeral_iff {number : Int} :
    Decimal.hasNumeral number = true ↔ number.natAbs < 10 ^ Decimal.maxDigits := by
  rw [Decimal.hasNumeral, decide_eq_true_iff, Nat.pow_eq]

/-- A number has a numeral when one that is as large has one. -/
theorem hasNumeral_of_natAbs_le {number greater : Int} (le : number.natAbs ≤ greater.natAbs)
    (short : Decimal.hasNumeral greater = true) : Decimal.hasNumeral number = true :=
  hasNumeral_iff.2 (Nat.lt_of_le_of_lt le (hasNumeral_iff.1 short))

/-- A number of four digits has a numeral. -/
theorem hasNumeral_of_small {number : Int} (small : number.natAbs < 10 ^ 4) :
    Decimal.hasNumeral number = true := by
  have enough : 10 ^ 4 ≤ 10 ^ Decimal.maxDigits :=
    Nat.pow_le_pow_right (by decide) (by decide : 4 ≤ Decimal.maxDigits)
  exact hasNumeral_iff.2 (Nat.lt_of_lt_of_le small enough)

/-- A whole number is written as the digits of its size behind its sign. -/
theorem toList_toString_int (number : Int) :
    (toString number).toList =
      (if number < 0 then ['-'] else []) ++ Nat.toDigits 10 number.natAbs := by
  rw [Int.toString_eq_repr, Int.repr_eq_if]
  by_cases negative : number < 0
  · have size : (-number).toNat = number.natAbs := by omega
    rw [if_neg (by omega), if_pos negative, String.toList_append, Nat.toList_repr, size]
    rfl
  · have size : number.toNat = number.natAbs := by omega
    rw [if_pos (by omega), if_neg negative, Nat.toList_repr, size]
    rfl

theorem toDigits_injective {first second : Nat}
    (same : Nat.toDigits 10 first = Nat.toDigits 10 second) : first = second := by
  calc first = Nat.ofDigitChars 10 (Nat.toDigits 10 first) 0 := Nat.ofDigitChars_ten_toDigits.symm
    _ = Nat.ofDigitChars 10 (Nat.toDigits 10 second) 0 := by rw [same]
    _ = second := Nat.ofDigitChars_ten_toDigits

/-- No number is written with a sign in the place of a digit. -/
theorem toDigits_ne_minus {number : Nat} {rest : List Char} :
    Nat.toDigits 10 number ≠ '-' :: rest := by
  intro same
  have digit := isAsciiDigit_of_mem_toDigits (same ▸ List.mem_cons_self : '-' ∈ _)
  simp [isAsciiDigit] at digit

/-- **Different whole numbers are written differently.** -/
theorem toString_int_injective {first second : Int} (same : toString first = toString second) :
    first = second := by
  have written := congrArg String.toList same
  rw [toList_toString_int, toList_toString_int] at written
  by_cases negative : first < 0 <;> by_cases other : second < 0
  · rw [if_pos negative, if_pos other] at written
    have sizes := toDigits_injective (List.append_cancel_left written)
    omega
  · rw [if_pos negative, if_neg other] at written
    exact absurd written.symm toDigits_ne_minus
  · rw [if_neg negative, if_pos other] at written
    exact absurd written toDigits_ne_minus
  · rw [if_neg negative, if_neg other] at written
    have sizes := toDigits_injective (List.append_cancel_left written)
    omega

/-! ## Reading a number back -/

theorem isNumeralBlank_of_isAsciiDigit {c : Char} (digit : isAsciiDigit c = true) :
    Decimal.isNumeralBlank c = false := by
  simp only [isAsciiDigit, Bool.and_eq_true, decide_eq_true_eq] at digit
  have visible : isBlank c = false := by
    simp only [isBlank, Bool.or_eq_false_iff, Bool.and_eq_false_iff, decide_eq_false_iff_not,
      beq_eq_false_iff_ne]
    omega
  rw [Decimal.isNumeralBlank, visible, Bool.false_and]

/-- Nothing is taken off a text that neither starts nor ends with a blank. -/
theorem trimNumeral_of_visible {text : List Char}
    (visible : ∀ c ∈ text, Decimal.isNumeralBlank c = false) :
    Decimal.trimNumeral text = text := by
  have untouched : ∀ chars : List Char, (∀ c ∈ chars, Decimal.isNumeralBlank c = false) →
      chars.dropWhile Decimal.isNumeralBlank = chars := by
    intro chars seen
    cases chars with
    | nil => rfl
    | cons c rest => rw [List.dropWhile_cons, seen c (by simp), if_neg (by decide)]
  rw [Decimal.trimNumeral, dropEndWhile, untouched text visible,
    untouched text.reverse fun c member => visible c (List.mem_reverse.1 member),
    List.reverse_reverse]

/-- The sign of a written number comes off. -/
theorem takeSign_written (number : Int) :
    Decimal.takeSign ((if number < 0 then ['-'] else []) ++ Nat.toDigits 10 number.natAbs) =
      (decide (number < 0), Nat.toDigits 10 number.natAbs) := by
  by_cases negative : number < 0
  · simp [negative, Decimal.takeSign]
  · rw [if_neg negative, List.nil_append, decide_eq_false negative]
    have ascii : ∀ c ∈ Nat.toDigits 10 number.natAbs, isAsciiDigit c = true :=
      fun c member => isAsciiDigit_of_mem_toDigits member
    unfold Decimal.takeSign
    split
    · next rest same => exact absurd same toDigits_ne_minus
    · next rest same => simpa [isAsciiDigit] using ascii '+' (same ▸ List.mem_cons_self)
    · rfl

/-- The size and the sign make the number. -/
theorem signed_natAbs (number : Int) :
    (if decide (number < 0) = true then -(number.natAbs : Int) else number.natAbs) = number := by
  simp only [decide_eq_true_eq]
  omega

/-- **A number that has a numeral is read back from what was written.** -/
theorem readInt?_toString {number : Int} (short : Decimal.hasNumeral number = true) :
    Decimal.readInt? (toString number) = some number := by
  have ascii : ∀ c ∈ Nat.toDigits 10 number.natAbs, isAsciiDigit c = true :=
    fun c member => isAsciiDigit_of_mem_toDigits member
  have visible : ∀ c ∈ (if number < 0 then ['-'] else []) ++ Nat.toDigits 10 number.natAbs,
      Decimal.isNumeralBlank c = false := by
    intro c member
    rcases List.mem_append.1 member with sign | digit
    · split at sign
      · rw [List.mem_singleton.1 sign]
        decide
      · cases sign
    · exact isNumeralBlank_of_isAsciiDigit (ascii c digit)
  have values : Decimal.digitValues? false (Nat.toDigits 10 number.natAbs) =
      some ((Nat.toDigits 10 number.natAbs).map fun c => c.toNat - 48) := by
    cases spelled : Nat.toDigits 10 number.natAbs with
    | nil => exact absurd spelled Nat.toDigits_ne_nil
    | cons c rest =>
        rw [spelled] at ascii
        rw [Decimal.digitValues?, digitValue?_of_isAsciiDigit (ascii c (by simp)),
          digitValues?_of_isAsciiDigit fun other member => ascii other (by simp [member])]
        rfl
  have fits : ¬ Decimal.maxDigits <
      ((Nat.toDigits 10 number.natAbs).map fun c => c.toNat - 48).length := by
    rw [List.length_map, Nat.not_lt]
    exact length_toDigits_le (hasNumeral_iff.1 short)
  rw [Decimal.readInt?, toList_toString_int, trimNumeral_of_visible visible, takeSign_written]
  simp only [values, if_neg fits, ofDigitValues_toDigits, signed_natAbs]

end Triage
