import Triage.Json.Printer
import Triage.Json.Reader

/-!
# Texts in JSON

Every character that is written is read as itself (`readText_escapedChar`): a character of its
own, a letter behind a backslash, a code unit, or two code units for a character beyond the
basic plane.  A code unit is never taken for the first half of such a pair, because no
character is a surrogate.  So a text literal is read back (`readText_literal`), and it is
written in printable ASCII (`all_isPlainChar_escapedChar`), without a carriage return that a
reader of files could change.
-/

namespace Triage.Json

set_option autoImplicit false

open Triage.Text (hexDigit hexDigits)

/-! ## Code units -/

theorem hexValue?_hexDigit {value : Nat} (small : value < 16) :
    hexValue? (hexDigit value) = some value := by
  have all : ∀ value < 16, hexValue? (hexDigit value) = some value := by decide
  exact all value small

/-- A code unit is read back from its four digits. -/
theorem unit?_hexDigits {unit : Nat} (small : unit < 0x10000) (rest : List Char) :
    unit? (hexDigits 4 unit ++ rest) = some (unit, rest) := by
  have written : hexDigits 4 unit ++ rest =
      hexDigit (unit / 16 / 16 / 16 % 16) :: hexDigit (unit / 16 / 16 % 16) ::
        hexDigit (unit / 16 % 16) :: hexDigit (unit % 16) :: rest := by
    simp [hexDigits]
  have value : ((unit / 16 / 16 / 16 % 16 * 16 + unit / 16 / 16 % 16) * 16 + unit / 16 % 16) *
      16 + unit % 16 = unit := by omega
  rw [written, unit?, hexValue?_hexDigit (by omega), hexValue?_hexDigit (by omega),
    hexValue?_hexDigit (by omega), hexValue?_hexDigit (by omega)]
  simp only [value]

theorem length_hexDigits (width value : Nat) : (hexDigits width value).length = width := by
  induction width generalizing value with
  | zero => rfl
  | succ width ih => rw [hexDigits, List.length_append, ih, List.length_singleton]

/-- A code unit that is no surrogate is read as its character. -/
theorem unicodeEscape_of_not_surrogate {unit : Nat} (small : unit < 0x10000)
    (whole : unit < 0xd800 ∨ 0xdfff < unit) {tail : List Char} (more : tail ≠ []) :
    unicodeEscape (hexDigits 4 unit ++ tail) = .ok (Char.ofNat unit, tail) := by
  have single : unitChar unit = Char.ofNat unit := by
    rw [unitChar, if_neg]
    simp only [Bool.and_eq_true, decide_eq_true_eq]
    omega
  have noPair : ∀ further : List Char,
      ¬ (0xd800 ≤ unit && unit ≤ 0xdbff && 4 < further.length) = true := by
    intro further
    simp only [Bool.and_eq_true, decide_eq_true_eq]
    omega
  obtain ⟨first, others, rfl⟩ := List.exists_cons_of_ne_nil more
  rw [unicodeEscape, unit?_hexDigits small]
  simp only
  split
  · rw [if_neg (noPair _), single]
  · rw [single]

/-- Two code units that are a pair of surrogates are read as their character. -/
theorem unicodeEscape_of_pair {number : Nat} (small : number < 0x100000) {tail : List Char}
    (more : tail ≠ []) :
    unicodeEscape (hexDigits 4 (0xd800 + number / 0x400) ++
        ('\\' :: 'u' :: (hexDigits 4 (0xdc00 + number % 0x400) ++ tail))) =
      .ok (Char.ofNat (0x10000 + number), tail) := by
  have length : 4 < (hexDigits 4 (0xdc00 + number % 0x400) ++ tail).length := by
    have := List.length_pos_iff.2 more
    rw [List.length_append, length_hexDigits]
    omega
  have first : (0xd800 ≤ 0xd800 + number / 0x400 && 0xd800 + number / 0x400 ≤ 0xdbff &&
      4 < (hexDigits 4 (0xdc00 + number % 0x400) ++ tail).length) = true := by
    simp only [Bool.and_eq_true, decide_eq_true_eq]
    omega
  have second : (0xdc00 ≤ 0xdc00 + number % 0x400 && 0xdc00 + number % 0x400 ≤ 0xdfff) = true := by
    simp only [Bool.and_eq_true, decide_eq_true_eq]
    omega
  have value : 0x10000 + (0xd800 + number / 0x400 - 0xd800) * 0x400 +
      (0xdc00 + number % 0x400 - 0xdc00) = 0x10000 + number := by omega
  rw [unicodeEscape, unit?_hexDigits (by omega)]
  simp only [first, second, unit?_hexDigits (show 0xdc00 + number % 0x400 < 0x10000 by omega),
    value, if_true]

/-! ## Characters -/

/-- A character that a backslash and a letter stand for is read as itself. -/
theorem readText_letter {letter c : Char} (found : letterEscape? letter = some c)
    (other : letter ≠ 'u') (opening read : List Char) (fuel : Nat) (tail : List Char) :
    readText opening read (fuel + 1) ('\\' :: letter :: tail) =
      readText opening (c :: read) fuel tail := by
  rw [readText, if_neg (by decide), if_neg (by decide), if_pos rfl]
  simp only [if_neg other, found]

/-- A character that code units stand for is read as itself. -/
theorem readText_unicode {units tail : List Char} {c : Char}
    (found : unicodeEscape units = .ok (c, tail)) (opening read : List Char) (fuel : Nat) :
    readText opening read (fuel + 1) ('\\' :: 'u' :: units) =
      readText opening (c :: read) fuel tail := by
  rw [readText, if_neg (by decide), if_neg (by decide), if_pos rfl]
  simp only [if_true, found]

/-- A character that stands for itself is read as itself. -/
theorem readText_plain {c : Char} (inside : c ≠ '\x22') (visible : 32 ≤ c.toNat)
    (plain : c ≠ '\\') (opening read : List Char) (fuel : Nat) (tail : List Char) :
    readText opening read (fuel + 1) (c :: tail) = readText opening (c :: read) fuel tail := by
  rw [readText.eq_def]
  simp only [if_neg inside, if_neg plain, if_neg (Nat.not_lt.2 visible)]

/-- **A character is read as what was written.** -/
theorem readText_escapedChar (opening read : List Char) (fuel : Nat) (c : Char)
    {tail : List Char} (more : tail ≠ []) :
    readText opening read (fuel + 1) (escapedChar c ++ tail) =
      readText opening (c :: read) fuel tail := by
  unfold escapedChar
  split
  · next special =>
      simp only [Bool.or_eq_true, decide_eq_true_eq] at special
      rcases special with rfl | rfl <;>
        exact readText_letter rfl (by decide) opening read fuel tail
  iterate 5
    split
    · next same =>
        subst same
        exact readText_letter rfl (by decide) opening read fuel tail
  have plane : c.toNat < 0xd800 ∨ 0xdfff < c.toNat ∧ c.toNat < 0x110000 := c.valid
  split
  · next special _ _ _ _ _ printable =>
      simp only [Bool.or_eq_true, decide_eq_true_eq, not_or] at special
      simp only [Bool.and_eq_true, decide_eq_true_eq] at printable
      exact readText_plain special.1 printable.1 special.2 opening read fuel tail
  split
  · next basic =>
      rw [escapedUnit, List.cons_append, List.cons_append]
      refine readText_unicode ?_ opening read fuel
      rw [unicodeEscape_of_not_surrogate basic (by omega) more, Char.ofNat_toNat]
  · next beyond =>
      have value : 0x10000 + (c.toNat - 0x10000) = c.toNat := by omega
      rw [escapedUnit, escapedUnit, List.append_assoc, List.cons_append, List.cons_append]
      refine readText_unicode ?_ opening read fuel
      rw [List.cons_append, List.cons_append, unicodeEscape_of_pair (by omega) more, value,
        Char.ofNat_toNat]

/-- **A text is read back up to its closing quote.** -/
theorem readText_literal (opening read : List Char) {fuel : Nat} (chars rest : List Char)
    (enough : chars.length < fuel) :
    readText opening read fuel (chars.flatMap escapedChar ++ '\x22' :: rest) =
      .ok (String.ofList (read.reverse ++ chars), rest) := by
  induction chars generalizing fuel read with
  | nil =>
      obtain ⟨fuel, rfl⟩ := Nat.exists_eq_succ_of_ne_zero (Nat.ne_of_gt enough)
      simp [readText]
  | cons c chars ih =>
      obtain ⟨fuel, rfl⟩ := Nat.exists_eq_succ_of_ne_zero (Nat.ne_of_gt (Nat.zero_lt_of_lt enough))
      rw [List.flatMap_cons, List.append_assoc, Nat.succ_eq_add_one,
        readText_escapedChar opening read fuel c (by simp), ih (c :: read) (by simpa using enough)]
      simp

/-! ## What is written -/

/-- Whether `c` may occur in what is written: printable ASCII, and line ends. -/
def isPlainChar (c : Char) : Bool := c = '\n' || (32 ≤ c.toNat && c.toNat ≤ 126)

theorem isPlainChar_of_isAsciiDigit {c : Char} (digit : Text.isAsciiDigit c = true) :
    isPlainChar c = true := by
  simp only [Text.isAsciiDigit, Bool.and_eq_true, decide_eq_true_eq] at digit
  simp only [isPlainChar, Bool.or_eq_true, Bool.and_eq_true, decide_eq_true_eq]
  omega

theorem all_isPlainChar_hexDigits (width value : Nat) :
    (hexDigits width value).all isPlainChar = true := by
  induction width generalizing value with
  | zero => rfl
  | succ width ih =>
      have digit : ∀ value < 16, isPlainChar (hexDigit value) = true := by decide
      rw [hexDigits, List.all_append, ih, Bool.true_and, List.all_cons, List.all_nil,
        Bool.and_true]
      exact digit _ (Nat.mod_lt _ (by decide))

theorem all_isPlainChar_escapedUnit (unit : Nat) :
    (escapedUnit unit).all isPlainChar = true := by
  rw [escapedUnit, List.all_cons, List.all_cons, all_isPlainChar_hexDigits]
  decide

/-- A character is written in printable ASCII. -/
theorem all_isPlainChar_escapedChar (written : Char) :
    (escapedChar written).all isPlainChar = true := by
  unfold escapedChar
  split
  · next special =>
      simp only [Bool.or_eq_true, decide_eq_true_eq] at special
      rcases special with rfl | rfl <;> decide
  iterate 5
    split
    · decide
  split
  · next printable => simp [isPlainChar, printable]
  split
  · exact all_isPlainChar_escapedUnit _
  · rw [List.all_append, all_isPlainChar_escapedUnit, all_isPlainChar_escapedUnit]
    rfl

/-- Every character is written with one character at least. -/
theorem length_escapedChar_pos (written : Char) : 0 < (escapedChar written).length := by
  unfold escapedChar
  repeat' split
  all_goals simp [escapedUnit]

end Triage.Json
