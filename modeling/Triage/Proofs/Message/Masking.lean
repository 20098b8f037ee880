import Mathlib.Algebra.Group.Nat.Even
import Triage.Message
import Triage.Proofs.Text.Cutting
import Triage.Proofs.Text.Trimming

/-!
# Masking a message piece by piece

What the passes of normalizing do to a text follows its parts.  Characters that are no digits
part a text into pieces whose numbers are masked one by one (`maskNumbersFrom_append_cons`), and
a number that is whole gives way to the placeholder (`maskNumbers_number`).  Quotes pair up from
the left, so every text has one of three forms, a plain one, one with a quote that stays open, or
a quoted name with plain text before it and any text behind it (`byQuotes`); behind an even number
of quotes a quoted name gives way to the placeholder, whatever stands around it
(`maskNames_quoted`).
-/

namespace Triage.Message

set_option autoImplicit false

open Triage.Text

/-! ## Quotes -/

/-- Whether `c` is one of the two quotes that enclose names. -/
def isQuote (c : Char) : Bool := c = '\x27' || c = quote

/-- No quote stands in a text. -/
def IsQuoteless (text : List Char) : Prop := ∀ c ∈ text, isQuote c = false

instance (text : List Char) : Decidable (IsQuoteless text) :=
  List.decidableBAll (fun c => isQuote c = false) text

theorem unifyQuotes_append (first second : List Char) :
    unifyQuotes (first ++ second) = unifyQuotes first ++ unifyQuotes second := List.map_append

theorem unifyQuotes_cons_quote {c : Char} (quoted : isQuote c = true) (rest : List Char) :
    unifyQuotes (c :: rest) = quote :: unifyQuotes rest := by
  rw [isQuote, Bool.or_eq_true, decide_eq_true_eq, decide_eq_true_eq] at quoted
  rcases quoted with rfl | rfl <;> rfl

theorem unifyQuotes_cons_other {c : Char} (other : c ≠ '\x27') (rest : List Char) :
    unifyQuotes (c :: rest) = c :: unifyQuotes rest := by
  rw [unifyQuotes, substitute, List.map_cons, if_neg other]
  rfl

/-- A text without single quotes is left as it is. -/
theorem unifyQuotes_of_not_mem {text : List Char} (free : '\x27' ∉ text) :
    unifyQuotes text = text := substitute_of_not_mem free

theorem not_mem_of_isQuoteless {text : List Char} (free : IsQuoteless text) {c : Char}
    (quoted : isQuote c = true) : c ∉ text := by
  intro member
  rw [free c member] at quoted
  cases quoted

/-- No single quote is left. -/
theorem single_not_mem_unifyQuotes (text : List Char) : '\x27' ∉ unifyQuotes text := by
  intro member
  obtain ⟨c, _, written⟩ := List.mem_map.1 member
  split at written
  · exact absurd written (by decide)
  · next other => exact other written

/-- Quotes are counted together. -/
theorem count_unifyQuotes (text : List Char) :
    (unifyQuotes text).count quote = text.countP isQuote := by
  induction text with
  | nil => rfl
  | cons c rest ih =>
      cases quoted : isQuote c with
      | true => rw [unifyQuotes_cons_quote quoted, List.count_cons_self, ih,
          List.countP_cons_of_pos quoted]
      | false =>
          rw [isQuote, Bool.or_eq_false_iff, decide_eq_false_iff_not, decide_eq_false_iff_not]
            at quoted
          rw [unifyQuotes_cons_other quoted.1, List.count_cons_of_ne quoted.2, ih,
            List.countP_cons_of_neg (by simp [isQuote, quoted])]

/-! ## Numbers -/

/-- A text is a run of digits. -/
def IsDigits (text : List Char) : Prop := text ≠ [] ∧ ∀ c ∈ text, isDigit c = true

instance (text : List Char) : Decidable (IsDigits text) :=
  @instDecidableAnd _ _ inferInstance (List.decidableBAll (fun c => isDigit c = true) text)

/-- A text does not start with a digit. -/
def StartsOpen (text : List Char) : Prop := ∀ c, text.head? = some c → isDigit c = false

/-- A text does not end with a digit. -/
def EndsOpen (text : List Char) : Prop := ∀ c, text.getLast? = some c → isDigit c = false

instance (text : List Char) : Decidable (StartsOpen text) :=
  decidable_of_iff ((text.head?.all fun c => !isDigit c) = true)
    (by cases first : text.head? <;> simp [StartsOpen, first])

instance (text : List Char) : Decidable (EndsOpen text) :=
  decidable_of_iff ((text.getLast?.all fun c => !isDigit c) = true)
    (by cases last : text.getLast? <;> simp [EndsOpen, last])

/-- The masked text of a digitless piece. -/
theorem maskNumbersFrom_cons_other {c : Char} (other : isDigit c = false) (inNumber : Bool)
    (rest : List Char) : maskNumbersFrom inNumber (c :: rest) = c :: maskNumbers rest := by
  rw [maskNumbersFrom, if_neg (by simp [other])]
  rfl

/-- **A character that is no digit parts the numbers** before it from those behind it. -/
theorem maskNumbersFrom_append_cons {c : Char} (other : isDigit c = false) (inNumber : Bool)
    (before rest : List Char) :
    maskNumbersFrom inNumber (before ++ c :: rest) =
      maskNumbersFrom inNumber before ++ c :: maskNumbers rest := by
  induction before generalizing inNumber with
  | nil => exact maskNumbersFrom_cons_other other inNumber rest
  | cons first before ih =>
      rw [List.cons_append, maskNumbersFrom, maskNumbersFrom]
      split
      · split
        · exact ih true
        · rw [ih true, List.append_assoc]
      · rw [ih false, List.cons_append]

theorem maskNumbers_append_cons {c : Char} (other : isDigit c = false) (before rest : List Char) :
    maskNumbers (before ++ c :: rest) = maskNumbers before ++ c :: maskNumbers rest :=
  maskNumbersFrom_append_cons other false before rest

/-- Numbers are masked apart where the text in front does not end with a digit. -/
theorem maskNumbers_append {before : List Char} (ends : EndsOpen before) (rest : List Char) :
    maskNumbers (before ++ rest) = maskNumbers before ++ maskNumbers rest := by
  rcases List.eq_nil_or_concat before with rfl | ⟨front, last, rfl⟩
  · rfl
  · have other : isDigit last = false := ends last (by simp)
    rw [List.concat_eq_append, List.append_assoc, List.singleton_append,
      maskNumbers_append_cons other, maskNumbers_append_cons other, List.append_assoc]
    rfl

/-- The digits of a number that is written already are passed over. -/
theorem maskNumbersFrom_true_append {digits : List Char}
    (each : ∀ c ∈ digits, isDigit c = true) (rest : List Char) :
    maskNumbersFrom true (digits ++ rest) = maskNumbersFrom true rest := by
  induction digits with
  | nil => rfl
  | cons c digits ih =>
      rw [List.cons_append, maskNumbersFrom, if_pos (each c List.mem_cons_self), if_pos rfl]
      exact ih fun other member => each other (List.mem_cons_of_mem _ member)

theorem maskNumbersFrom_of_startsOpen {rest : List Char} (starts : StartsOpen rest)
    (inNumber : Bool) : maskNumbersFrom inNumber rest = maskNumbers rest := by
  cases rest with
  | nil => rfl
  | cons c rest =>
      have other := starts c rfl
      exact (maskNumbersFrom_cons_other other inNumber rest).trans
        (maskNumbersFrom_cons_other other false rest).symm

/-- **A whole number gives way to the placeholder.** -/
theorem maskNumbers_number {digits rest : List Char} (number : IsDigits digits)
    (starts : StartsOpen rest) : maskNumbers (digits ++ rest) = numberWord ++ maskNumbers rest := by
  obtain ⟨some, each⟩ := number
  obtain ⟨c, digits, rfl⟩ := List.exists_cons_of_ne_nil some
  rw [List.cons_append, maskNumbers, maskNumbersFrom, if_pos (each c List.mem_cons_self),
    if_neg Bool.false_ne_true,
    maskNumbersFrom_true_append fun other member => each other (List.mem_cons_of_mem _ member),
    maskNumbersFrom_of_startsOpen starts]

/-- A text without digits is left as it is. -/
theorem maskNumbers_of_digitless {text : List Char} (free : ∀ c ∈ text, isDigit c = false) :
    maskNumbers text = text := by
  induction text with
  | nil => rfl
  | cons c rest ih =>
      rw [maskNumbers, maskNumbersFrom_cons_other (free c List.mem_cons_self),
        ih fun other member => free other (List.mem_cons_of_mem _ member)]

/-- What a text without digits is followed by is masked by itself. -/
theorem maskNumbers_append_of_digitless {before : List Char}
    (free : ∀ c ∈ before, isDigit c = false) (rest : List Char) :
    maskNumbers (before ++ rest) = before ++ maskNumbers rest := by
  rw [maskNumbers_append (fun c last => free c (List.mem_of_getLast? last)),
    maskNumbers_of_digitless free]

theorem isDigit_of_mem_numberWord {c : Char} (member : c ∈ numberWord) : isDigit c = false := by
  have each : (numberWord.all fun c => !isDigit c) = true := by decide
  simpa using List.all_eq_true.1 each c member

/-- What is masked was a character of the text that is no digit, or is one of the placeholder. -/
theorem mem_maskNumbersFrom {inNumber : Bool} {text : List Char} {c : Char}
    (member : c ∈ maskNumbersFrom inNumber text) :
    isDigit c = false ∧ (c ∈ text ∨ c ∈ numberWord) := by
  induction text generalizing inNumber with
  | nil => cases member
  | cons first rest ih =>
      rw [maskNumbersFrom] at member
      split at member
      · split at member
        · exact ⟨(ih member).1, (ih member).2.imp_left (List.mem_cons_of_mem _)⟩
        · rcases List.mem_append.1 member with word | further
          · exact ⟨isDigit_of_mem_numberWord word, .inr word⟩
          · exact ⟨(ih further).1, (ih further).2.imp_left (List.mem_cons_of_mem _)⟩
      · next other =>
          rcases List.mem_cons.1 member with rfl | further
          · exact ⟨Bool.eq_false_iff.2 other, .inl List.mem_cons_self⟩
          · exact ⟨(ih further).1, (ih further).2.imp_left (List.mem_cons_of_mem _)⟩

/-- The quotes of a text stay where they are. -/
theorem count_maskNumbers (text : List Char) :
    (maskNumbers text).count quote = text.count quote := by
  suffices every : ∀ inNumber, (maskNumbersFrom inNumber text).count quote = text.count quote from
    every false
  induction text with
  | nil => exact fun _ => rfl
  | cons c rest ih =>
      intro inNumber
      rw [maskNumbersFrom]
      split
      · next digit =>
          have other : c ≠ quote := fun same => absurd (same ▸ digit) (by decide)
          rw [List.count_cons_of_ne other]
          split
          · exact ih true
          · rw [List.count_append, ih true, List.count_eq_zero_of_not_mem (by decide),
              Nat.zero_add]
      · rw [List.count_cons, List.count_cons, ih false]

/-! ## Names -/

/-- A text without quotes is left as it is. -/
theorem maskNames_of_not_mem {text : List Char} (free : quote ∉ text) :
    maskNames text = text := by
  rw [maskNames, cutAt_of_not_mem free]
  rfl

/-- A quote that stays open is left as it is. -/
theorem maskNames_open {before rest : List Char} (front : quote ∉ before) (back : quote ∉ rest) :
    maskNames (before ++ quote :: rest) = before ++ quote :: rest := by
  rw [maskNames, cutAt_append_cons, cutAt_of_not_mem front, cutAt_of_not_mem back]
  rfl

/-- The first quoted name gives way to the placeholder. -/
theorem maskNames_first {before name : List Char} (front : quote ∉ before) (free : quote ∉ name)
    (rest : List Char) :
    maskNames (before ++ quote :: (name ++ quote :: rest)) =
      before ++ quote :: (nameWord ++ quote :: maskNames rest) := by
  rw [maskNames, cutAt_append_cons, cutAt_append_cons, cutAt_of_not_mem front,
    cutAt_of_not_mem free, maskNames]
  cases pieces : cutAt quote rest with
  | nil => exact absurd pieces (cutAt_ne_nil quote rest)
  | cons piece more => rfl

/-- **Every text is plain, or has a quote that stays open, or a quoted name** with plain text
before it and any text behind it. -/
theorem byQuotes {motive : List Char → Prop}
    (plain : ∀ text, quote ∉ text → motive text)
    (opened : ∀ before rest, quote ∉ before → quote ∉ rest → motive (before ++ quote :: rest))
    (quoted : ∀ before name rest, quote ∉ before → quote ∉ name → motive rest →
      motive (before ++ quote :: (name ++ quote :: rest)))
    (text : List Char) : motive text := by
  by_cases some : quote ∈ text
  · obtain ⟨before, rest, parted, front⟩ := List.eq_append_cons_of_mem some
    by_cases further : quote ∈ rest
    · obtain ⟨name, behind, again, free⟩ := List.eq_append_cons_of_mem further
      have shorter : behind.length < text.length := by
        rw [parted, again]
        simp only [List.length_append, List.length_cons]
        omega
      rw [parted, again]
      exact quoted before name behind front free (byQuotes plain opened quoted behind)
    · rw [parted]
      exact opened before rest front further
  · exact plain text some
termination_by text.length

theorem count_eq_one {before rest : List Char} (front : quote ∉ before) (back : quote ∉ rest) :
    (before ++ quote :: rest).count quote = 1 := by
  rw [List.count_append, List.count_cons_self, List.count_eq_zero_of_not_mem front,
    List.count_eq_zero_of_not_mem back]

theorem count_eq_add_two {before name : List Char} (front : quote ∉ before) (free : quote ∉ name)
    (rest : List Char) :
    (before ++ quote :: (name ++ quote :: rest)).count quote = rest.count quote + 2 := by
  rw [List.count_append, List.count_cons_self, List.count_append, List.count_cons_self,
    List.count_eq_zero_of_not_mem front, List.count_eq_zero_of_not_mem free, Nat.zero_add,
    Nat.zero_add]

/-- **Behind an even number of quotes a quoted name gives way to the placeholder**, and what
stands around it is masked by itself. -/
theorem maskNames_quoted {before name : List Char} (paired : Even (before.count quote))
    (free : quote ∉ name) (rest : List Char) :
    maskNames (before ++ quote :: (name ++ quote :: rest)) =
      maskNames before ++ quote :: (nameWord ++ quote :: maskNames rest) := by
  induction before using byQuotes with
  | plain before front => rw [maskNames_first front free, maskNames_of_not_mem front]
  | opened before behind front back =>
      rw [count_eq_one front back] at paired
      exact absurd paired (by decide)
  | quoted before other behind front inner ih =>
      rw [count_eq_add_two front inner, Nat.even_add] at paired
      have even := ih (paired.2 ⟨1, rfl⟩)
      simp only [List.append_assoc, List.cons_append] at even ⊢
      rw [maskNames_first front inner, maskNames_first front inner, even]
      simp only [List.append_assoc, List.cons_append]

/-- What stands behind all quotes is left as it is. -/
theorem maskNames_append_of_not_mem (text : List Char) {rest : List Char} (free : quote ∉ rest) :
    maskNames (text ++ rest) = maskNames text ++ rest := by
  induction text using byQuotes with
  | plain text front =>
      rw [maskNames_of_not_mem front, maskNames_of_not_mem]
      exact fun member => (List.mem_append.1 member).elim front free
  | opened before behind front back =>
      rw [List.append_assoc, List.cons_append, maskNames_open front back, maskNames_open front,
        List.append_assoc, List.cons_append]
      exact fun member => (List.mem_append.1 member).elim back free
  | quoted before name behind front inner ih =>
      simp only [List.append_assoc, List.cons_append]
      rw [maskNames_first front inner, maskNames_first front inner, ih]
      simp only [List.append_assoc, List.cons_append]

/-- What stands before all quotes is left as it is. -/
theorem maskNames_append_of_front {before : List Char} (free : quote ∉ before)
    (text : List Char) : maskNames (before ++ text) = before ++ maskNames text := by
  have joined {front : List Char} (plain : quote ∉ front) : quote ∉ before ++ front :=
    fun member => (List.mem_append.1 member).elim free plain
  induction text using byQuotes with
  | plain text plain => rw [maskNames_of_not_mem plain, maskNames_of_not_mem (joined plain)]
  | opened front behind plain back =>
      rw [← List.append_assoc, maskNames_open (joined plain) back, maskNames_open plain back,
        List.append_assoc]
  | quoted front name behind plain inner ih =>
      rw [← List.append_assoc, maskNames_first (joined plain) inner, maskNames_first plain inner,
        List.append_assoc]

theorem toList_normalize (message : String) :
    (normalize message).toList = normalizeChars message.toList := String.toList_ofList

end Triage.Message
