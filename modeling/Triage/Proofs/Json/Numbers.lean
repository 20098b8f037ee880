import Triage.Json.Reader
import Triage.Proofs.Numerals

/-!
# Numbers in JSON

A whole number that has a numeral is read back up to what stops a number: the end of the text,
a comma, or a line end (`readScalar_toString`).  Its digits start with a zero only if it is
zero, and none of the words of the dialect starts like it.
-/

namespace Triage.Json

set_option autoImplicit false

open Triage.Text (isAsciiDigit)

/-- What may stand behind a value. -/
def Stops (rest : List Char) : Prop := ∀ c ∈ rest.head?, c = ',' ∨ c = '\n'

/-- The digits of a number that is not zero do not start with a zero. -/
theorem eq_zero_of_toDigits {number : Nat} {rest : List Char}
    (spelled : Nat.toDigits 10 number = '0' :: rest) : number = 0 := by
  induction number using Nat.strongRecOn generalizing rest with
  | ind number ih =>
      rw [Nat.toDigits_eq_if (by decide)] at spelled
      split at spelled
      · exact Nat.digitChar_eq_zero.1 (List.cons.inj spelled).1
      · next large =>
          obtain ⟨first, front, found⟩ :=
            List.exists_cons_of_ne_nil (@Nat.toDigits_ne_nil (number / 10) 10)
          rw [found, List.cons_append] at spelled
          rw [(List.cons.inj spelled).1] at found
          have small := ih (number / 10) (by omega) found
          omega

/-- A run of digits ends where a value stops. -/
theorem digitRun_append {digits rest : List Char} (ascii : ∀ c ∈ digits, isAsciiDigit c = true)
    (stops : Stops rest) : digitRun (digits ++ rest) = (digits, rest) := by
  rw [digitRun, List.takeWhile_append_of_pos ascii, List.dropWhile_append_of_pos ascii]
  cases rest with
  | nil => simp
  | cons c rest =>
      have other : isAsciiDigit c = false := by
        rcases stops c rfl with rfl | rfl <;> decide
      simp [other]

/-- The digits of a number are its whole part. -/
theorem wholeRun_toDigits (number : Nat) {rest : List Char} (stops : Stops rest) :
    wholeRun (Nat.toDigits 10 number ++ rest) = (Nat.toDigits 10 number, rest) := by
  unfold wholeRun
  split
  · next after same =>
      obtain ⟨first, front, found⟩ :=
        List.exists_cons_of_ne_nil (@Nat.toDigits_ne_nil number 10)
      have zero : first = '0' := by
        rw [found, List.cons_append] at same
        exact (List.cons.inj same).1
      rw [zero] at found
      rw [eq_zero_of_toDigits found, Nat.toDigits_zero] at same ⊢
      obtain rfl : rest = after := (List.cons.inj same).2
      rfl
  · exact digitRun_append (fun c member => isAsciiDigit_of_mem_toDigits member) stops

/-- The sign of a number is taken off before its digits. -/
theorem signRun_toDigits (number : Int) (rest : List Char) :
    signRun ((if number < 0 then ['-'] else []) ++ (Nat.toDigits 10 number.natAbs ++ rest)) =
      ((if number < 0 then ['-'] else []), Nat.toDigits 10 number.natAbs ++ rest) := by
  by_cases negative : number < 0
  · simp [negative, signRun]
  · simp only [if_neg negative, List.nil_append]
    unfold signRun
    split
    · next after same =>
        obtain ⟨first, front, found⟩ :=
          List.exists_cons_of_ne_nil (@Nat.toDigits_ne_nil number.natAbs 10)
        rw [found, List.cons_append] at same
        rw [(List.cons.inj same).1] at found
        exact absurd found toDigits_ne_minus
    · rfl

/-- **A number is read back** up to where it stops. -/
theorem readNumber_toString {number : Int} (short : Decimal.hasNumeral number = true)
    {rest : List Char} (stops : Stops rest) :
    readNumber ((toString number).toList ++ rest) = .ok (.int number, rest) := by
  have noFraction : fractionRun rest = ([], rest) := by
    unfold fractionRun
    split
    · next after => rcases stops '.' rfl with same | same <;> cases same
    · rfl
  have noExponent : exponentRun rest = ([], rest) := by
    unfold exponentRun
    split
    · next c after =>
        have other : ¬ (c = 'e' || c = 'E') = true := by
          rcases stops c rfl with rfl | rfl <;> decide
        rw [if_neg other]
    · rfl
  have spelled : String.ofList ((if number < 0 then ['-'] else []) ++
      Nat.toDigits 10 number.natAbs) = toString number := by
    rw [← toList_toString_int, String.ofList_toList]
  have digits : (Nat.toDigits 10 number.natAbs).isEmpty = false := by
    rw [List.isEmpty_eq_false_iff]
    exact Nat.toDigits_ne_nil
  rw [toList_toString_int, List.append_assoc]
  unfold readNumber
  simp only [signRun_toDigits, wholeRun_toDigits _ stops, noFraction, noExponent, digits,
    List.append_nil, spelled, readInt?_toString short, List.isEmpty_nil, Bool.and_self, if_true,
    Bool.false_eq_true, if_false]

/-- A written number starts with a minus or a digit. -/
theorem exists_toString_int (number : Int) :
    ∃ c tail, (toString number).toList = c :: tail ∧ (c = '-' ∨ isAsciiDigit c = true) := by
  rw [toList_toString_int]
  split
  · exact ⟨'-', _, rfl, .inl rfl⟩
  · obtain ⟨first, front, found⟩ :=
      List.exists_cons_of_ne_nil (@Nat.toDigits_ne_nil number.natAbs 10)
    rw [found]
    exact ⟨first, front, rfl, .inr (isAsciiDigit_of_mem_toDigits (found ▸ List.mem_cons_self))⟩

/-- None of the words of the dialect starts like a number. -/
theorem find?_wordValues_toString (number : Int) (rest : List Char) :
    (wordValues.find? fun word => word.1.isPrefixOf ((toString number).toList ++ rest)) = none := by
  obtain ⟨first, front, found⟩ :=
    List.exists_cons_of_ne_nil (@Nat.toDigits_ne_nil number.natAbs 10)
  have digit : isAsciiDigit first = true :=
    isAsciiDigit_of_mem_toDigits (found ▸ List.mem_cons_self)
  have differs : ∀ {c : Char} {letters tail : List Char}, isAsciiDigit c = false →
      ¬ c :: letters <+: first :: tail := by
    intro c letters tail other starts
    rw [(List.cons_prefix_cons.1 starts).1, digit] at other
    cases other
  rw [toList_toString_int, found, List.find?_eq_none]
  intro word member
  rw [List.isPrefixOf_iff_prefix]
  simp only [wordValues, List.mem_cons, List.not_mem_nil, or_false] at member
  split
  · have signed : ∀ {letters tail : List Char}, ¬ 'I' :: letters <+: first :: tail :=
      differs (by decide)
    rcases member with rfl | rfl | rfl | rfl | rfl | rfl
    case inr.inr.inr.inr.inr =>
      exact fun starts => signed (List.cons_prefix_cons.1 starts).2
    all_goals exact fun starts => absurd (List.cons_prefix_cons.1 starts).1 (by decide)
  · rcases member with rfl | rfl | rfl | rfl | rfl | rfl <;> exact differs (by decide)

/-- **A scalar that is a number is read back.** -/
theorem readScalar_toString {number : Int} (short : Decimal.hasNumeral number = true)
    {rest : List Char} (stops : Stops rest) :
    readScalar ((toString number).toList ++ rest) = .ok (.int number, rest) := by
  rw [readScalar, find?_wordValues_toString]
  exact readNumber_toString short stops

end Triage.Json
