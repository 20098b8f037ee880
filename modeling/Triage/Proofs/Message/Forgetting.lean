import Mathlib.Data.String.Basic
import Mathlib.Logic.Relation
import Triage.Proofs.Message.Masking

/-!
# What normalizing forgets

A message says the same as another one when the two differ in what is forgotten (`Forgets`): which
of the two quotes is written, what a quoted name is, what a number is, and the blanks at both
ends.  A quoted name is one that stands behind an even number of quotes, and a number is a whole
run of digits.  Normalizing decides that relation: it answers the same text for two messages
exactly when they are joined by steps of that kind (`normalizeChars_eq_iff`).  One half of it says
that names and numbers are forgotten in every surrounding, the other one that nothing else is
(`normalize_forgets_names_and_numbers`).
-/

namespace Triage.Message

set_option autoImplicit false

open Triage.Text

/-- All quotes of a text are paired. -/
def IsPaired (text : List Char) : Prop := Even (text.countP isQuote)

instance (text : List Char) : Decidable (IsPaired text) :=
  inferInstanceAs (Decidable (Even (text.countP isQuote)))

/-- A text stands for a number: its digits, or the placeholder. -/
def StandsForNumber (text : List Char) : Prop := IsDigits text ∨ text = numberWord

/-- One step of forgetting: two texts that differ in one thing that is forgotten. -/
inductive Forgets : List Char → List Char → Prop
  | quote (before rest : List Char) {first second : Char}
      (here : isQuote first = true) (there : isQuote second = true) :
      Forgets (before ++ first :: rest) (before ++ second :: rest)
  | name {before first second : List Char} (rest : List Char)
      (paired : IsPaired before) (here : IsQuoteless first) (there : IsQuoteless second) :
      Forgets (before ++ Message.quote :: (first ++ Message.quote :: rest))
        (before ++ Message.quote :: (second ++ Message.quote :: rest))
  | number {before first second rest : List Char} (ends : EndsOpen before)
      (starts : StartsOpen rest) (here : StandsForNumber first)
      (there : StandsForNumber second) :
      Forgets (before ++ first ++ rest) (before ++ second ++ rest)
  | blanks {before behind : List Char} (text : List Char) (front : AreBlank before)
      (back : AreBlank behind) : Forgets (before ++ text ++ behind) text

/-! ## What is forgotten is normalized away -/

/-- A text with its names and numbers masked. -/
def masked (text : List Char) : List Char := maskNames (maskNumbers (unifyQuotes text))

theorem isQuote_of_isBlank {c : Char} (blank : isBlank c = true) : isQuote c = false := by
  rw [Bool.eq_false_iff]
  intro quoted
  rw [isQuote, Bool.or_eq_true, decide_eq_true_eq, decide_eq_true_eq] at quoted
  rcases quoted with rfl | rfl <;> exact absurd blank (by decide)

theorem isQuoteless_of_areBlank {text : List Char} (blank : AreBlank text) : IsQuoteless text :=
  fun c member => isQuote_of_isBlank (blank c member)

/-- A text without quotes has none after its numbers are masked. -/
theorem quote_not_mem_maskNumbers {text : List Char} (free : IsQuoteless text) :
    quote ∉ maskNumbers text := by
  intro member
  rcases (mem_maskNumbersFrom member).2 with inside | word
  · exact not_mem_of_isQuoteless free (by decide) inside
  · exact absurd word (by decide)

/-- **A name that stands in quotes is masked**, whatever it is and whatever stands around it. -/
theorem masked_name {before name : List Char} {opening closing : Char} (rest : List Char)
    (paired : IsPaired before) (free : IsQuoteless name) (opens : isQuote opening = true)
    (closes : isQuote closing = true) :
    masked (before ++ opening :: (name ++ closing :: rest)) =
      masked before ++ quote :: (nameWord ++ quote :: masked rest) := by
  have digitless : isDigit quote = false := by decide
  have plain : unifyQuotes name = name :=
    unifyQuotes_of_not_mem (not_mem_of_isQuoteless free (by decide))
  have even : Even ((maskNumbers (unifyQuotes before)).count quote) := by
    rwa [count_maskNumbers, count_unifyQuotes]
  rw [masked, unifyQuotes_append, unifyQuotes_cons_quote opens, unifyQuotes_append,
    unifyQuotes_cons_quote closes, plain, maskNumbers_append_cons digitless,
    maskNumbers_append_cons digitless, maskNames_quoted even (quote_not_mem_maskNumbers free)]
  rfl

theorem unifyQuotes_of_digits {digits : List Char} (each : ∀ c ∈ digits, isDigit c = true) :
    unifyQuotes digits = digits := by
  refine unifyQuotes_of_not_mem fun member => ?_
  exact absurd (each _ member) (by decide)

theorem endsOpen_unifyQuotes {text : List Char} (ends : EndsOpen text) :
    EndsOpen (unifyQuotes text) := by
  intro c last
  rw [unifyQuotes, substitute, List.getLast?_map, Option.map_eq_some_iff] at last
  obtain ⟨written, final, rfl⟩ := last
  split
  · decide
  · exact ends written final

theorem startsOpen_unifyQuotes {text : List Char} (starts : StartsOpen text) :
    StartsOpen (unifyQuotes text) := by
  intro c first
  rw [unifyQuotes, substitute, List.head?_map, Option.map_eq_some_iff] at first
  obtain ⟨written, initial, rfl⟩ := first
  split
  · decide
  · exact starts written initial

/-- **A number is masked**, whatever it is and whatever stands around it. -/
theorem maskNumbers_unifyQuotes_number {before number rest : List Char} (ends : EndsOpen before)
    (starts : StartsOpen rest) (stands : StandsForNumber number) :
    maskNumbers (unifyQuotes (before ++ number ++ rest)) =
      maskNumbers (unifyQuotes before) ++ numberWord ++ maskNumbers (unifyQuotes rest) := by
  have here : maskNumbers (unifyQuotes number ++ unifyQuotes rest) =
      numberWord ++ maskNumbers (unifyQuotes rest) := by
    rcases stands with digits | rfl
    · rw [unifyQuotes_of_digits digits.2,
        maskNumbers_number digits (startsOpen_unifyQuotes starts)]
    · rw [unifyQuotes_of_not_mem (by decide),
        maskNumbers_append_of_digitless fun c => isDigit_of_mem_numberWord]
  rw [unifyQuotes_append, unifyQuotes_append, List.append_assoc,
    maskNumbers_append (endsOpen_unifyQuotes ends), here, List.append_assoc]

/-- Blanks are left as they are, before a text and behind it. -/
theorem masked_around {before behind : List Char} (front : AreBlank before)
    (back : AreBlank behind) (text : List Char) :
    masked (before ++ text ++ behind) = before ++ masked text ++ behind := by
  have kept {blanks : List Char} (blank : AreBlank blanks) : unifyQuotes blanks = blanks :=
    unifyQuotes_of_not_mem (not_mem_of_isQuoteless (isQuoteless_of_areBlank blank) (by decide))
  have digitless {blanks : List Char} (blank : AreBlank blanks) :
      ∀ c ∈ blanks, isDigit c = false := fun c member => isDigit_of_isBlank (blank c member)
  have free {blanks : List Char} (blank : AreBlank blanks) : quote ∉ blanks :=
    not_mem_of_isQuoteless (isQuoteless_of_areBlank blank) (by decide)
  have numbers : maskNumbers (unifyQuotes text ++ behind) =
      maskNumbers (unifyQuotes text) ++ behind := by
    cases behind with
    | nil => rw [List.append_nil, List.append_nil]
    | cons c rest =>
        have further : ∀ other ∈ rest, isDigit other = false := fun other member =>
          digitless back other (List.mem_cons_of_mem _ member)
        rw [maskNumbers_append_cons (digitless back c List.mem_cons_self),
          maskNumbers_of_digitless further]
  rw [masked, unifyQuotes_append, unifyQuotes_append, kept front, kept back, List.append_assoc,
    maskNumbers_append_of_digitless (digitless front), numbers,
    maskNames_append_of_front (free front), maskNames_append_of_not_mem _ (free back),
    List.append_assoc]
  rfl

theorem normalizeChars_name {before first second : List Char}
    {opening closing other another : Char} (rest : List Char) (paired : IsPaired before)
    (here : IsQuoteless first) (there : IsQuoteless second) (opens : isQuote opening = true)
    (closes : isQuote closing = true) (reopens : isQuote other = true)
    (recloses : isQuote another = true) :
    normalizeChars (before ++ opening :: (first ++ closing :: rest)) =
      normalizeChars (before ++ other :: (second ++ another :: rest)) := by
  have left := masked_name rest paired here opens closes
  have right := masked_name rest paired there reopens recloses
  exact congrArg trimChars (left.trans right.symm)

theorem normalizeChars_number {before first second rest : List Char} (ends : EndsOpen before)
    (starts : StartsOpen rest) (here : StandsForNumber first) (there : StandsForNumber second) :
    normalizeChars (before ++ first ++ rest) = normalizeChars (before ++ second ++ rest) := by
  have left := maskNumbers_unifyQuotes_number ends starts here
  have right := maskNumbers_unifyQuotes_number ends starts there
  exact congrArg (fun numberless => trimChars (maskNames numberless)) (left.trans right.symm)

/-- What one step forgets is normalized away. -/
theorem normalizeChars_eq_of_forgets {first second : List Char} (step : Forgets first second) :
    normalizeChars first = normalizeChars second := by
  cases step with
  | quote before rest here there =>
      rw [normalizeChars, normalizeChars, unifyQuotes_append, unifyQuotes_append,
        unifyQuotes_cons_quote here, unifyQuotes_cons_quote there]
  | name rest paired here there =>
      exact normalizeChars_name rest paired here there (by decide) (by decide) (by decide)
        (by decide)
  | number ends starts here there => exact normalizeChars_number ends starts here there
  | blanks text front back =>
      change trimChars (masked _) = trimChars (masked second)
      rw [masked_around front back, trimChars_around front back]

/-! ## Nothing else is forgotten -/

/-- Two texts are joined by steps of forgetting. -/
abbrev SaysTheSame (first second : List Char) : Prop := Relation.EqvGen Forgets first second

/-- Writing one kind of quotes is forgotten. -/
theorem saysTheSame_unifyQuotes (before text : List Char) :
    SaysTheSame (before ++ text) (before ++ unifyQuotes text) := by
  induction text generalizing before with
  | nil => exact .refl _
  | cons c rest ih =>
      have further := ih (before ++ [if c = '\x27' then quote else c])
      simp only [List.append_assoc, List.singleton_append] at further
      refine .trans _ _ _ ?_ further
      split
      · next single => exact .rel _ _ (.quote before rest (by simp [isQuote, single]) (by decide))
      · exact .refl _

/-- Masking numbers is forgotten. -/
theorem saysTheSame_maskNumbers (before : List Char) (ends : EndsOpen before)
    (text : List Char) : SaysTheSame (before ++ text) (before ++ maskNumbers text) := by
  induction size : text.length using Nat.strong_induction_on generalizing before text with
  | _ size ih =>
    subst size
    have parted : text.takeWhile isDigit ++ text.dropWhile isDigit = text :=
      List.takeWhile_append_dropWhile
    have digits : ∀ c ∈ text.takeWhile isDigit, isDigit c = true := fun c => List.mem_takeWhile_imp
    cases number : text.takeWhile isDigit with
    | nil =>
        cases text with
        | nil => exact .refl _
        | cons c rest =>
            -- No number stands here, so one character is passed over.
            have other : isDigit c = false := by
              rw [Bool.eq_false_iff]
              intro digit
              rw [List.takeWhile_cons, if_pos digit] at number
              cases number
            have further := ih rest.length (by simp) (before ++ [c])
              (fun last => by simp; rintro rfl; exact other) rest rfl
            rw [List.append_assoc, List.append_assoc] at further
            rwa [maskNumbers, maskNumbersFrom_cons_other other]
    | cons c rest =>
        have whole : IsDigits (text.takeWhile isDigit) :=
          ⟨number ▸ List.cons_ne_nil c rest, digits⟩
        have starts : StartsOpen (text.dropWhile isDigit) := by
          intro first found
          have stopped := List.head?_dropWhile_not isDigit text
          rw [found] at stopped
          exact stopped
        have shorter : (text.dropWhile isDigit).length < text.length := by
          have lengths := congrArg List.length parted
          rw [List.length_append, number, List.length_cons] at lengths
          omega
        have written : EndsOpen (before ++ numberWord) := fun last found => by
          rw [List.getLast?_append_of_ne_nil _ (by decide)] at found
          exact isDigit_of_mem_numberWord (List.mem_of_getLast? found)
        have masks := maskNumbers_number whole starts
        rw [parted] at masks
        have step : SaysTheSame (before ++ text)
            (before ++ numberWord ++ text.dropWhile isDigit) := by
          have forgets := Forgets.number ends starts (.inl whole) (.inr rfl)
          rw [List.append_assoc before, parted] at forgets
          exact .rel _ _ forgets
        rw [masks, ← List.append_assoc]
        exact .trans _ _ _ step (ih _ shorter _ written _ rfl)

/-- Masking names is forgotten behind an even number of quotes. -/
theorem saysTheSame_maskNames (before : List Char) {text : List Char} (paired : IsPaired before)
    (unified : '\x27' ∉ text) : SaysTheSame (before ++ text) (before ++ maskNames text) := by
  have quoteless {piece : List Char} (inside : '\x27' ∉ piece) (free : quote ∉ piece) :
      IsQuoteless piece := by
    intro c member
    rw [isQuote, Bool.or_eq_false_iff, decide_eq_false_iff_not, decide_eq_false_iff_not]
    exact ⟨fun same => inside (same ▸ member), fun same => free (same ▸ member)⟩
  induction text using byQuotes generalizing before with
  | plain text free => rw [maskNames_of_not_mem free]; exact .refl _
  | opened front behind plain back => rw [maskNames_open plain back]; exact .refl _
  | quoted front name behind plain inner ih =>
      simp only [List.mem_append, List.mem_cons, not_or] at unified
      obtain ⟨frontFree, _, nameFree, _, behindFree⟩ := unified
      have none : (front.countP isQuote) = 0 :=
        List.countP_eq_zero.2 fun c member => by simp [quoteless frontFree plain c member]
      have paired' : IsPaired (before ++ front) := by
        rwa [IsPaired, List.countP_append, none, Nat.add_zero]
      have word : nameWord.countP isQuote = 0 := by decide
      have single : [quote].countP isQuote = 1 := by decide
      have further := ih (before ++ front ++ [quote] ++ nameWord ++ [quote])
        (by
          rw [IsPaired, List.countP_append, List.countP_append, List.countP_append, single, word]
          exact paired'.add ⟨1, rfl⟩) behindFree
      have step := Forgets.name behind paired' (quoteless nameFree inner)
        (by decide : IsQuoteless nameWord)
      simp only [List.append_assoc, List.singleton_append] at further step
      rw [maskNames_first plain inner]
      exact .trans _ _ _ (.rel _ _ step) further

/-- **A message says the same as its normalized text.** -/
theorem saysTheSame_normalizeChars (text : List Char) : SaysTheSame text (normalizeChars text) := by
  have quotes := saysTheSame_unifyQuotes [] text
  have numbers := saysTheSame_maskNumbers [] nofun (unifyQuotes text)
  have unified : '\x27' ∉ maskNumbers (unifyQuotes text) := by
    intro member
    rcases (mem_maskNumbersFrom member).2 with inside | word
    · exact single_not_mem_unifyQuotes text inside
    · exact absurd word (by decide)
  have names := saysTheSame_maskNames [] ⟨0, rfl⟩ unified
  obtain ⟨before, behind, front, back, parted⟩ := exists_blanks_around (masked text)
  have blanks := Forgets.blanks (trimChars (masked text)) front back
  rw [← parted] at blanks
  exact .trans _ _ _ quotes (.trans _ _ _ numbers (.trans _ _ _ names (.rel _ _ blanks)))

/-- **Normalizing decides what says the same.** -/
theorem normalizeChars_eq_iff {first second : List Char} :
    normalizeChars first = normalizeChars second ↔ SaysTheSame first second := by
  constructor
  · intro same
    have there := saysTheSame_normalizeChars second
    rw [← same] at there
    exact .trans _ _ _ (saysTheSame_normalizeChars first) (.symm _ _ there)
  · intro joined
    induction joined with
    | rel first second step => exact normalizeChars_eq_of_forgets step
    | refl text => rfl
    | symm first second _ ih => exact ih.symm
    | trans first second third _ _ left right => exact left.trans right

/-- **Normalizing forgets names and numbers.** A name in quotes that stands behind an even number
of quotes may be any other one in any other quotes, and a number that is a whole run of digits may
be any other one, whatever stands around them; and texts that are normalized alike say the same,
so nothing is forgotten but the kind of quotes, names, numbers, and blanks at the ends. -/
theorem normalize_forgets_names_and_numbers :
    (∀ (before first second rest : String) (opening closing other another : Char),
      IsPaired before.toList → IsQuoteless first.toList → IsQuoteless second.toList →
      isQuote opening = true → isQuote closing = true → isQuote other = true →
      isQuote another = true →
      normalize (before ++ String.singleton opening ++ first ++ String.singleton closing ++ rest) =
        normalize (before ++ String.singleton other ++ second ++ String.singleton another ++ rest)) ∧
    (∀ before first second rest : String,
      EndsOpen before.toList → StartsOpen rest.toList → IsDigits first.toList →
      IsDigits second.toList → normalize (before ++ first ++ rest) =
        normalize (before ++ second ++ rest)) ∧
    ∀ first second : String, normalize first = normalize second →
      SaysTheSame first.toList second.toList := by
  refine ⟨?_, ?_, ?_⟩
  · intro before first second rest opening closing other another paired here there opens closes
      reopens recloses
    have same := normalizeChars_name rest.toList paired here there opens closes reopens recloses
    simp only [normalize, String.toList_append, String.toList_singleton, List.append_assoc,
      List.singleton_append]
    exact congrArg String.ofList same
  · intro before first second rest ends starts here there
    have same := normalizeChars_number ends starts (.inl here) (.inl there)
    simp only [normalize, String.toList_append]
    exact congrArg String.ofList same
  · intro first second same
    exact normalizeChars_eq_iff.1 (String.ofList_injective same)

theorem normalize_forgets_quoted_numbers :
    (IsPaired "don't \"x' 7\" ".toList ∧ IsQuoteless "a 1".toList ∧ IsQuoteless "".toList ∧
      normalize ("don't \"x' 7\" " ++ String.singleton '\x27' ++ "a 1" ++ String.singleton quote ++
          " is 2 'left") =
        normalize ("don't \"x' 7\" " ++ String.singleton quote ++ "" ++ String.singleton '\x27' ++
          " is 2 'left")) ∧
    (EndsOpen "'a".toList ∧ StartsOpen "b' 3".toList ∧ IsDigits "12".toList ∧
      IsDigits "\u0663".toList ∧
      normalize ("'a" ++ "12" ++ "b' 3") = normalize ("'a" ++ "\u0663" ++ "b' 3")) ∧
    SaysTheSame "Cannot find 'a' in 3".toList " Cannot find \"b\" in 41\n".toList := by
  obtain ⟨names, numbers, nothing⟩ := normalize_forgets_names_and_numbers
  have paired : IsPaired "don't \"x' 7\" ".toList := by decide +kernel
  have here : IsQuoteless "a 1".toList := by decide +kernel
  have there : IsQuoteless "".toList := by decide +kernel
  have ends : EndsOpen "'a".toList := by decide +kernel
  have starts : StartsOpen "b' 3".toList := by decide +kernel
  have twelve : IsDigits "12".toList := by decide +kernel
  have three : IsDigits "\u0663".toList := by decide +kernel
  refine ⟨⟨paired, here, there, ?_⟩, ⟨ends, starts, twelve, three, ?_⟩, ?_⟩
  · exact names _ _ _ _ _ _ _ _ paired here there (by decide) (by decide) (by decide) (by decide)
  · exact numbers _ _ _ _ ends starts twelve three
  · exact nothing _ _ (by decide +kernel)

end Triage.Message
