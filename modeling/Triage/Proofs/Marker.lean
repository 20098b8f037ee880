import Mathlib.Algebra.GroupWithZero.Nat
import Triage.Proofs.Text.Occurrence
import Triage.Proofs.Textual

/-!
# What a text mentions

A word stands alone in a text where no word character comes before it or behind it
(`Marker.StandsAlone`).  Looking for a word passes over the places where it is a part of a longer
one, and goes on behind them (`Marker.occursWhole_iff`).  So a marker that is made of word
characters is mentioned when it stands alone somewhere, and any other marker when it is a part of
the text (`Marker.mentionedIn_iff`).
-/

namespace Triage.Marker

set_option autoImplicit false

open Triage.Text

/-- A word stands in a text with no word character in front of it and none behind it. -/
def StandsAlone (word text : List Char) : Prop :=
  ∃ before after, text = before ++ word ++ after ∧
    (∀ c ∈ before.getLast?, isWordChar c = false) ∧ ∀ c ∈ after.head?, isWordChar c = false

/-- A marker is made of word characters. -/
def IsWordy (marker : List Char) : Prop := marker ≠ [] ∧ ∀ c ∈ marker, isWordChar c = true

-- Not by inference, which may find that there are finitely many characters and try them all.
instance (marker : List Char) : Decidable (IsWordy marker) :=
  decidable_of_iff (marker ≠ [] ∧ marker.all isWordChar = true) (and_congr_right' List.all_eq_true)

/-- A text mentions a marker: as a word of its own, or anywhere if the marker is no word. -/
def Mentions (text marker : String) : Prop :=
  if IsWordy marker.toList then StandsAlone marker.toList text.toList
  else marker.toList <:+: text.toList

theorem startsInWord_eq_false_iff {text : List Char} :
    startsInWord text = false ↔ ∀ c ∈ text.head?, isWordChar c = false := by
  cases text with
  | nil => exact iff_of_true rfl nofun
  | cons c rest => simp [startsInWord]

theorem endsWholeAt_iff {word text : List Char} :
    endsWholeAt word text = true ↔
      ∃ after, text = word ++ after ∧ ∀ c ∈ after.head?, isWordChar c = false := by
  rw [endsWholeAt, Bool.and_eq_true, List.isPrefixOf_iff_prefix, Bool.not_eq_true',
    startsInWord_eq_false_iff]
  constructor
  · rintro ⟨⟨after, rfl⟩, apart⟩
    rw [List.drop_left] at apart
    exact ⟨after, rfl, apart⟩
  · rintro ⟨after, rfl, apart⟩
    refine ⟨List.prefix_append word after, ?_⟩
    rw [List.drop_left]
    exact apart

/-- What comes before a place ends like what comes before it behind the first character. -/
theorem forall_mem_getLast?_cons {c : Char} {before : List Char} :
    (∀ last ∈ (c :: before).getLast?, isWordChar last = false) ↔
      (before = [] → isWordChar c = false) ∧ ∀ last ∈ before.getLast?, isWordChar last = false := by
  cases before with
  | nil => simp
  | cons next rest => simp [List.getLast?_cons_cons]

/-- **Looking for a word finds it where it stands alone.** The text may be the rest of a longer one,
of which the character before is known. -/
theorem occursWhole_iff {word : List Char} {afterWord : Bool} {text : List Char} :
    occursWhole word afterWord text = true ↔
      ∃ before after, text = before ++ word ++ after ∧ (before = [] → afterWord = false) ∧
        (∀ c ∈ before.getLast?, isWordChar c = false) ∧
        ∀ c ∈ after.head?, isWordChar c = false := by
  induction text generalizing afterWord with
  | nil =>
      rw [occursWhole, Bool.and_eq_true, Bool.not_eq_true', endsWholeAt_iff]
      constructor
      · rintro ⟨start, after, parts, apart⟩
        exact ⟨[], after, parts, fun _ => start, nofun, apart⟩
      · rintro ⟨before, after, parts, start, _, apart⟩
        obtain ⟨rfl, -⟩ := List.append_eq_nil_iff.1 (List.append_eq_nil_iff.1 parts.symm).1
        exact ⟨start rfl, after, parts, apart⟩
  | cons c rest ih =>
      rw [occursWhole, Bool.or_eq_true, Bool.and_eq_true, Bool.not_eq_true', endsWholeAt_iff, ih]
      constructor
      · rintro (⟨start, after, parts, apart⟩ | ⟨before, after, parts, start, alone, apart⟩)
        · exact ⟨[], after, parts, fun _ => start, nofun, apart⟩
        · exact ⟨c :: before, after, by rw [parts]; rfl, nofun,
            forall_mem_getLast?_cons.2 ⟨start, alone⟩, apart⟩
      · rintro ⟨before, after, parts, start, alone, apart⟩
        cases before with
        | nil => exact .inl ⟨start rfl, after, parts, apart⟩
        | cons first before =>
            obtain ⟨rfl, behind⟩ := List.cons.inj parts
            obtain ⟨start, alone⟩ := forall_mem_getLast?_cons.1 alone
            exact .inr ⟨before, after, behind, start, alone, apart⟩

theorem occursWhole_false_iff {word text : List Char} :
    occursWhole word false text = true ↔ StandsAlone word text := by
  rw [occursWhole_iff, StandsAlone]
  simp

instance (word text : List Char) : Decidable (StandsAlone word text) :=
  decidable_of_iff _ occursWhole_false_iff

instance (text marker : String) : Decidable (Mentions text marker) :=
  inferInstanceAs (Decidable (ite _ _ _))

/-- A marker without line feeds is a word when it is made of word characters. -/
theorem isWord_iff {marker : List Char} (oneLine : '\n' ∉ marker) :
    isWord marker = true ↔ IsWordy marker := by
  have noBreak : marker.getLast? ≠ some '\n' := fun last => oneLine (List.mem_of_getLast? last)
  simp [isWord, IsWordy, noBreak]

/-- **A marker is mentioned** where it stands alone if it is a word, and anywhere if it is none. -/
theorem mentionedIn_iff {marker : String} (oneLine : '\n' ∉ marker.toList) (text : String) :
    mentionedIn marker.toList text.toList = true ↔ Mentions text marker := by
  unfold mentionedIn Mentions
  by_cases word : IsWordy marker.toList
  · rw [if_pos ((isWord_iff oneLine).2 word), if_pos word, occursWhole_false_iff]
  · rw [if_neg fun wordy => word ((isWord_iff oneLine).1 wordy), if_neg word, occursIn_iff]

section Counting

variable {markers : List String} {texts : List Value}
  (oneLine : ∀ marker ∈ markers, '\n' ∉ marker.toList) (given : ∀ text ∈ texts, text.IsText)
include given

/-- It can be told how often texts mention markers. -/
theorem checkHits_textValues : checkHits (textValues markers) texts = .ok () := by
  refine forM_eq_ok_iff.2 fun marker listed => forM_eq_ok_iff.2 fun text member => ?_
  obtain ⟨written, _, rfl⟩ := List.mem_map.1 listed
  obtain ⟨content, rfl⟩ := given text member
  rw [mention?_text]
  rfl

include oneLine

/-- **Mentions are counted marker by marker.** -/
theorem hits_textValues :
    hits (textValues markers) texts =
      (markers.map fun marker => texts.countP fun text => Mentions text.display marker).sum := by
  simp only [hits, textValues, List.map_map, ← List.sum_eq_foldl]
  refine congrArg List.sum (List.map_congr_left fun marker listed => ?_)
  refine List.countP_congr fun text member => ?_
  obtain ⟨content, rfl⟩ := given text member
  rw [mention?_text, Verdict.passed_ok, mentionedIn_iff (oneLine marker listed), decide_eq_true_eq]
  rfl

end Counting

end Triage.Marker
