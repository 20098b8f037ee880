import Mathlib.Data.Nat.Count
import Triage.Proofs.Marker
import Triage.Proofs.Quality.Reporting
import Triage.Proofs.Text.Trimming

/-!
# Annotations, counted by their colons

Annotations with a permissive type are looked for from left to right, and the search goes on behind
each that it has found.  It tries the markers one after the other, first behind a blank and then
without one, so it finds an annotation behind a colon exactly when some marker stands there,
directly or behind one blank, with no word character behind it (`isSome_annotationLength?_iff`).

A marker without colons passes over none (`colon_not_mem_take_of_annotationLength?`): what is
skipped hides no other annotation, and as many are found as there are colons with an annotation
behind them (`annotations_eq_count`).  So the score of a component is told by its text: by the words
that introduce a type, by these colons, and by the notes of unfinished work
(`component_score_is_told_by_the_text`).
-/

namespace Triage

set_option autoImplicit false

open Triage.Marker (StandsAlone endsWholeAt endsWholeAt_iff occursWhole_false_iff)
open Triage.Text

namespace SourceText

variable {markers : List String} {text : List Char}

/-- A text starts with one of the markers, directly or behind one blank, and no word character
stands behind the marker. -/
def Annotates (markers : List String) (text : List Char) : Prop :=
  ∃ blanks after, ∃ marker ∈ markers, text = blanks ++ marker.toList ++ after ∧
    AreBlank blanks ∧ blanks.length ≤ 1 ∧ ∀ c ∈ after.head?, isWordChar c = false

/-- A colon stands at a position of a text, with an annotation behind it. -/
def IsAnnotatedAt (markers : List String) (text : List Char) (position : Nat) : Prop :=
  text[position]? = some ':' ∧ Annotates markers (text.drop (position + 1))

/-! ## Behind a colon -/

theorem isSome_markerLength?_iff :
    (markerLength? (markers.map String.toList) text).isSome = true ↔
      ∃ marker ∈ markers, endsWholeAt marker.toList text = true := by
  rw [markerLength?, Option.isSome_map, List.find?_isSome]
  simp only [List.mem_map, exists_exists_and_eq_and]

/-- A blank in front of the marker is tried before there is none. -/
theorem annotationLength?_cons (markers : List (List Char)) (c : Char) (rest : List Char) :
    annotationLength? markers (c :: rest) =
      (if isBlank c then (markerLength? markers rest).map (· + 1) else none).or
        (markerLength? markers (c :: rest)) := by
  unfold annotationLength?
  dsimp only
  generalize (if isBlank c = true then (markerLength? markers rest).map (· + 1) else none) =
    behindBlank
  cases behindBlank <;> rfl

/-- A marker stands at the start of a text or behind its first blank. -/
theorem annotates_iff :
    Annotates markers text ↔ (∃ marker ∈ markers, endsWholeAt marker.toList text = true) ∨
      ∃ c rest, text = c :: rest ∧ isBlank c = true ∧
        ∃ marker ∈ markers, endsWholeAt marker.toList rest = true := by
  simp only [endsWholeAt_iff]
  constructor
  · rintro ⟨blanks, after, marker, among, rfl, blank, short, apart⟩
    cases blanks with
    | nil => exact .inl ⟨marker, among, after, rfl, apart⟩
    | cons c more =>
        obtain rfl : more = [] := List.length_eq_zero_iff.1 (by simpa using short)
        exact .inr ⟨c, _, rfl, blank c List.mem_cons_self, marker, among, after, rfl, apart⟩
  · rintro (⟨marker, among, after, rfl, apart⟩ |
      ⟨c, _, rfl, blank, marker, among, after, rfl, apart⟩)
    · exact ⟨[], after, marker, among, rfl, nofun, Nat.zero_le 1, apart⟩
    · refine ⟨[c], after, marker, among, rfl, ?_, le_refl 1, apart⟩
      exact List.forall_mem_singleton.2 blank

/-- **An annotation is found behind a colon** exactly when one stands there. -/
theorem isSome_annotationLength?_iff :
    (annotationLength? (markers.map String.toList) text).isSome = true ↔
      Annotates markers text := by
  rw [annotates_iff, ← isSome_markerLength?_iff]
  cases text with
  | nil => exact (or_iff_left fun ⟨_, _, same, _⟩ => nomatch same).symm
  | cons c rest =>
      rw [annotationLength?_cons, Option.isSome_or, Bool.or_eq_true, or_comm]
      refine or_congr_right ?_
      by_cases blank : isBlank c = true
      · simp [blank, isSome_markerLength?_iff]
      · simp [blank]

theorem colon_not_mem_take_of_markerLength? (apart : ∀ marker ∈ markers, ':' ∉ marker.toList)
    {length : Nat} (found : markerLength? (markers.map String.toList) text = some length) :
    ':' ∉ text.take length := by
  obtain ⟨marker, first, rfl⟩ := Option.map_eq_some_iff.1 found
  obtain ⟨written, among, rfl⟩ := List.mem_map.1 (List.mem_of_find?_eq_some first)
  have ends : endsWholeAt written.toList text = true := by simpa using List.find?_some first
  obtain ⟨after, rfl, _⟩ := endsWholeAt_iff.1 ends
  rw [List.take_left]
  exact apart written among

/-- What belongs to an annotation has no colon. -/
theorem colon_not_mem_take_of_annotationLength? (apart : ∀ marker ∈ markers, ':' ∉ marker.toList)
    {length : Nat} (found : annotationLength? (markers.map String.toList) text = some length) :
    ':' ∉ text.take length := by
  cases text with
  | nil => simp
  | cons c rest =>
      rw [annotationLength?_cons, Option.or_eq_some_iff] at found
      rcases found with behind | ⟨_, here⟩
      · split at behind
        · next blank =>
            obtain ⟨size, further, rfl⟩ := Option.map_eq_some_iff.1 behind
            rw [List.take_succ_cons, List.mem_cons, not_or]
            refine ⟨?_, colon_not_mem_take_of_markerLength? apart further⟩
            rintro rfl
            exact absurd blank (by decide)
        · cases behind
      · exact colon_not_mem_take_of_markerLength? apart here

instance : Decidable (Annotates markers text) := decidable_of_iff _ isSome_annotationLength?_iff

instance : DecidablePred (IsAnnotatedAt markers text) :=
  fun _ => inferInstanceAs (Decidable (_ ∧ _))

/-! ## From colon to colon -/

theorem count_isAnnotatedAt_cons (markers : List String) (c : Char) (rest : List Char) :
    Nat.count (IsAnnotatedAt markers (c :: rest)) (c :: rest).length =
      Nat.count (IsAnnotatedAt markers rest) rest.length +
        if c = ':' ∧ Annotates markers rest then 1 else 0 := by
  have first : IsAnnotatedAt markers (c :: rest) 0 ↔ c = ':' ∧ Annotates markers rest := by
    simp [IsAnnotatedAt]
  have further : ∀ position,
      IsAnnotatedAt markers (c :: rest) (position + 1) ↔ IsAnnotatedAt markers rest position :=
    fun position => Iff.rfl
  rw [List.length_cons, Nat.count_succ']
  simp only [first, further]

/-- **Annotations that do not overlap** are all annotations: what is skipped has no colon. -/
theorem annotationsFrom_eq_count (apart : ∀ marker ∈ markers, ':' ∉ marker.toList) {skipped : Nat}
    (free : ':' ∉ text.take skipped) :
    annotationsFrom (markers.map String.toList) skipped text =
      Nat.count (IsAnnotatedAt markers text) text.length := by
  -- What is still skipped has no colon, which each annotation that is found passes on.
  fun_induction annotationsFrom (markers.map String.toList) skipped text with
  | case1 skipped => rfl
  | case2 skipped c rest within ih =>
      obtain ⟨fewer, rfl⟩ := Nat.exists_eq_succ_of_ne_zero within.ne'
      rw [List.take_succ_cons, List.mem_cons, not_or] at free
      rw [count_isAnnotatedAt_cons, if_neg fun colon => free.1 colon.1.symm]
      exact ih free.2
  | case3 skipped rest beyond length found ih =>
      have annotated : Annotates markers rest :=
        isSome_annotationLength?_iff.1 (Option.isSome_of_eq_some found)
      rw [count_isAnnotatedAt_cons, if_pos ⟨rfl, annotated⟩,
        ih (colon_not_mem_take_of_annotationLength? apart found)]
  | case4 skipped rest beyond unfound ih =>
      have unannotated : ¬ Annotates markers rest := by
        rw [← isSome_annotationLength?_iff, unfound]
        exact Bool.false_ne_true
      rw [count_isAnnotatedAt_cons, if_neg fun colon => unannotated colon.2]
      exact ih (by simp)
  | case5 skipped c rest beyond other ih =>
      rw [count_isAnnotatedAt_cons, if_neg fun colon => other colon.1]
      exact ih (by simp)

/-- **As many annotations are found as colons have one behind them.** -/
theorem annotations_eq_count (apart : ∀ marker ∈ markers, ':' ∉ marker.toList) :
    annotations markers text = Nat.count (IsAnnotatedAt markers text) text.length :=
  annotationsFrom_eq_count apart (by simp)

/-! ## Words and notes -/

theorem hasTypeWord_iff :
    hasTypeWord text = true ↔
      ∃ word ∈ ["interface", "type", "class"], StandsAlone word.toList text := by
  simp [hasTypeWord, typeWords, occursWhole_false_iff]

theorem isUnfinished_iff :
    isUnfinished text = true ↔ "TODO".toList <:+: text ∨ "FIXME".toList <:+: text := by
  simp [isUnfinished, unfinishedNotes, occursIn_iff]

end SourceText

/-! ## The score -/

/-- **The score of a component is told by its text.** With markers that are texts without colons,
and for a subsystem of texts, a file is assessed: it has a hundred points less what it loses for
having no word of its own that introduces a type, for every colon with an annotation behind it, and
for notes of unfinished work, and never less than none. -/
theorem component_score_is_told_by_the_text {Number : Type} (profile : Profile)
    (subsystem : Subsystem Number) {markers : List String}
    (given : profile.permissiveMarkers = textValues markers)
    (apart : ∀ marker ∈ markers, ':' ∉ marker.toList) (name path text : String) :
    checkMarkers profile = .ok () ∧ (subsystem.Textual → checkTerms subsystem = .ok ()) ∧
      (assessComponent profile subsystem name path text).score =
        max (0 : Int)
          (100 -
            (if ∃ word ∈ ["interface", "type", "class"], StandsAlone word.toList text.toList then 0
              else 20) -
            5 * Nat.count (SourceText.IsAnnotatedAt markers text.toList) text.toList.length -
            (if "TODO".toList <:+: text.toList ∨ "FIXME".toList <:+: text.toList then 10
              else 0)) := by
  have checked : checkMarkers profile = .ok () := by
    refine checkMarkers_of_texts ?_
    rw [given]
    exact isText_of_mem_textValues
  have shown : profile.permissiveMarkers.map Value.display = markers := by
    rw [given, textValues, List.map_map]
    exact List.map_id markers
  have words : (if !SourceText.hasTypeWord text.toList then untypedPenalty else 0) =
      if ∃ word ∈ ["interface", "type", "class"], StandsAlone word.toList text.toList then 0
        else 20 := by
    by_cases typed : ∃ word ∈ ["interface", "type", "class"], StandsAlone word.toList text.toList
    · rw [if_pos typed, SourceText.hasTypeWord_iff.2 typed]
      rfl
    · rw [if_neg typed, Bool.eq_false_iff.2 (mt SourceText.hasTypeWord_iff.1 typed)]
      rfl
  have notes : (if SourceText.isUnfinished text.toList then unfinishedPenalty else 0) =
      if "TODO".toList <:+: text.toList ∨ "FIXME".toList <:+: text.toList then 10 else 0 :=
    if_congr SourceText.isUnfinished_iff rfl rfl
  refine ⟨checked, checkTerms_of_textual, ?_⟩
  change max 0 (inspectText profile text).2 = _
  rw [inspectText, shown, SourceText.annotations_eq_count apart]
  dsimp only
  rw [words, notes, permissivePenalty, mul_comm]

/-- A text with annotations behind colons that have no blank, one blank and two behind them. -/
def annotatedText : String := "type A = [x: any, y:any, z:  any, w:\nanyone, v: many] // FIXME"

theorem score_of_annotatedText_is_told :
    (∀ marker ∈ ["any", "anyone", "any"], ':' ∉ marker.toList) ∧ paymentSubsystem.Textual ∧
      checkTerms paymentSubsystem = .ok () ∧
      (assessComponent { permissiveMarkers := textValues ["any", "anyone", "any"] }
        paymentSubsystem "a.ts" "src/a.ts" annotatedText).score = 75 := by
  have apart : ∀ marker ∈ ["any", "anyone", "any"], ':' ∉ marker.toList := by decide
  obtain ⟨_, terms, score⟩ := component_score_is_told_by_the_text
    { permissiveMarkers := textValues ["any", "anyone", "any"] } paymentSubsystem rfl apart "a.ts"
    "src/a.ts" annotatedText
  refine ⟨apart, textual_paymentSubsystem, terms textual_paymentSubsystem, score.trans ?_⟩
  decide +kernel

end Triage
