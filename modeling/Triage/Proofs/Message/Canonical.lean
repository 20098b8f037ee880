import Triage.Proofs.Message.Masking
import Triage.Proofs.Project.Analysis
import Triage.Proofs.Pattern.Recurrence
import Triage.Proofs.Run

/-!
# The form of a normalized message

A text is canonical when it holds no single quote and no digit, neither starts nor ends with a
blank, and every name that is quoted in it, which is one behind an even number of quotes, is the
placeholder (`IsCanonical`).  What is normalized is canonical, however its quotes are mixed and
whether or not they are paired (`isCanonical_normalizeChars`), and the canonical texts are those
that normalizing leaves as they are (`normalizeChars_eq_self_iff`).  So normalizing twice is
normalizing once, and a pattern that was made of a message admits the text that it looks for
(`normalize_is_canonical`).
-/

namespace Triage.Message

set_option autoImplicit false

open Triage.Text

/-- Every name that is quoted in a text is the placeholder. -/
def IsNameless (text : List Char) : Prop :=
  ∀ before name rest, text = before ++ quote :: (name ++ quote :: rest) →
    Even (before.count quote) → quote ∉ name → name = nameWord

/-- A text has the form of a normalized message. -/
structure IsCanonical (text : List Char) : Prop where
  unified : '\x27' ∉ text
  digitless : ∀ c ∈ text, isDigit c = false
  trimmed : IsTrimmed text
  nameless : IsNameless text

/-! ## Names that are masked -/

/-- A text is parted at its first quote, or somewhere behind it. -/
theorem eq_or_exists_of_append_quote {front behind before rest : List Char}
    (plain : quote ∉ front) (same : front ++ quote :: behind = before ++ quote :: rest) :
    before = front ∧ behind = rest ∨
      ∃ between, before = front ++ quote :: between ∧ behind = between ++ quote :: rest := by
  rcases List.append_eq_append_iff.1 same with ⟨more, longer, further⟩ | ⟨more, shorter, further⟩
  · cases more with
    | nil =>
        rw [List.append_nil] at longer
        exact .inl ⟨longer, (List.cons.inj further).2⟩
    | cons c between =>
        obtain ⟨rfl, behindIs⟩ := List.cons.inj further
        exact .inr ⟨between, longer, behindIs⟩
  · cases more with
    | nil =>
        rw [List.append_nil] at shorter
        exact .inl ⟨shorter.symm, (List.cons.inj further).2.symm⟩
    | cons c between =>
        obtain ⟨rfl, _⟩ := List.cons.inj further
        exact absurd (shorter ▸ List.mem_append_right _ List.mem_cons_self) plain

/-- Two quotes at least stand around a name that is quoted. -/
theorem two_le_count (before name rest : List Char) :
    2 ≤ (before ++ quote :: (name ++ quote :: rest)).count quote := by
  rw [List.count_append, List.count_cons_self, List.count_append, List.count_cons_self]
  omega

/-- A text with one quote at most quotes no name. -/
theorem isNameless_of_count_le_one {text : List Char} (few : text.count quote ≤ 1) :
    IsNameless text := by
  rintro before name rest rfl
  have several := two_le_count before name rest
  omega

/-- The names of a text are the first one and those behind it. -/
theorem isNameless_first_iff {front name behind : List Char} (plain : quote ∉ front)
    (free : quote ∉ name) :
    IsNameless (front ++ quote :: (name ++ quote :: behind)) ↔
      name = nameWord ∧ IsNameless behind := by
  constructor
  · intro nameless
    refine ⟨nameless front name behind rfl ?_ free, ?_⟩
    · rw [List.count_eq_zero_of_not_mem plain]
      exact ⟨0, rfl⟩
    · rintro before inner rest rfl paired free'
      refine nameless (front ++ quote :: (name ++ quote :: before)) inner rest (by simp) ?_ free'
      rw [count_eq_add_two plain free]
      exact paired.add ⟨1, rfl⟩
  · rintro ⟨rfl, nameless⟩ before inner rest same paired free'
    rcases eq_or_exists_of_append_quote plain same with ⟨_, here⟩ | ⟨between, rfl, further⟩
    · rcases eq_or_exists_of_append_quote free here with ⟨is, _⟩ | ⟨between, is, _⟩
      · exact is
      · exact absurd (is ▸ List.mem_append_right _ List.mem_cons_self) free'
    · -- The opening quote is not the first one, and not the second, which closes the first name.
      rcases eq_or_exists_of_append_quote free further with ⟨rfl, _⟩ | ⟨others, rfl, behindIs⟩
      · rw [count_eq_one plain free] at paired
        exact absurd paired (by decide)
      · rw [count_eq_add_two plain free, Nat.even_add] at paired
        exact nameless others inner rest behindIs (paired.2 ⟨1, rfl⟩) free'

/-- **After names are masked no other name is quoted.** -/
theorem isNameless_maskNames (text : List Char) : IsNameless (maskNames text) := by
  induction text using byQuotes with
  | plain text free =>
      rw [maskNames_of_not_mem free]
      exact isNameless_of_count_le_one (by rw [List.count_eq_zero_of_not_mem free]; omega)
  | opened before rest front back =>
      rw [maskNames_open front back]
      exact isNameless_of_count_le_one (count_eq_one front back).le
  | quoted before name rest front free ih =>
      rw [maskNames_first front free]
      exact (isNameless_first_iff front (by decide)).2 ⟨rfl, ih⟩

/-- A text in which no other name is quoted is left as it is. -/
theorem maskNames_of_isNameless {text : List Char} (nameless : IsNameless text) :
    maskNames text = text := by
  induction text using byQuotes with
  | plain text free => exact maskNames_of_not_mem free
  | opened before rest front back => exact maskNames_open front back
  | quoted before name rest front free ih =>
      obtain ⟨rfl, further⟩ := (isNameless_first_iff front free).1 nameless
      rw [maskNames_first front free, ih further]

/-- What stands in a text whose names are masked stood there, or is of the placeholder. -/
theorem mem_maskNames {text : List Char} {c : Char} (member : c ∈ maskNames text) :
    c ∈ text ∨ c ∈ nameWord := by
  induction text using byQuotes with
  | plain text free => rw [maskNames_of_not_mem free] at member; exact .inl member
  | opened before rest front back => rw [maskNames_open front back] at member; exact .inl member
  | quoted before name rest front free ih =>
      rw [maskNames_first front free] at member
      simp only [List.mem_append, List.mem_cons] at member ⊢
      rcases member with here | rfl | word | rfl | behind
      · exact .inl (.inl here)
      · exact .inl (.inr (.inl rfl))
      · exact .inr word
      · exact .inl (.inr (.inl rfl))
      · exact (ih behind).imp_left fun found => .inr (.inr (.inr (.inr found)))

theorem isDigit_of_mem_nameWord {c : Char} (member : c ∈ nameWord) : isDigit c = false := by
  have each : (nameWord.all fun c => !isDigit c) = true := by decide
  simpa using List.all_eq_true.1 each c member

/-! ## Normalized messages -/

/-- A part of a text that stands behind no quote quotes no other names. -/
theorem IsNameless.of_append {before text behind : List Char} (front : quote ∉ before)
    (nameless : IsNameless (before ++ text ++ behind)) : IsNameless text := by
  rintro start name rest rfl paired free
  refine nameless (before ++ start) name (rest ++ behind) (by simp) ?_ free
  rwa [List.count_append, List.count_eq_zero_of_not_mem front, Nat.zero_add]

/-- **What is normalized is canonical.** -/
theorem isCanonical_normalizeChars (text : List Char) : IsCanonical (normalizeChars text) := by
  obtain ⟨before, behind, front, _, parted⟩ :=
    exists_blanks_around (maskNames (maskNumbers (unifyQuotes text)))
  change _ = before ++ normalizeChars text ++ behind at parted
  -- What stands in the trimmed text stands in the masked one.
  have origin {c : Char} (member : c ∈ normalizeChars text) :
      c ∈ maskNumbers (unifyQuotes text) ∨ c ∈ nameWord :=
    mem_maskNames (parted ▸ List.mem_append_left _ (List.mem_append_right _ member))
  constructor
  case unified =>
    intro member
    rcases origin member with inside | word
    · rcases (mem_maskNumbersFrom inside).2 with unified | number
      · exact single_not_mem_unifyQuotes text unified
      · exact absurd number (by decide)
    · exact absurd word (by decide)
  case digitless =>
    intro c member
    rcases origin member with inside | word
    · exact (mem_maskNumbersFrom inside).1
    · exact isDigit_of_mem_nameWord word
  case trimmed => exact isTrimmed_trimChars _
  case nameless =>
    have quoteless : quote ∉ before := fun member => absurd (front _ member) (by decide)
    exact (parted ▸ isNameless_maskNames _ : IsNameless (before ++ _ ++ behind)).of_append quoteless

/-- **The canonical texts are those that normalizing leaves as they are.** -/
theorem normalizeChars_eq_self_iff {text : List Char} :
    normalizeChars text = text ↔ IsCanonical text := by
  constructor
  · intro same
    exact same ▸ isCanonical_normalizeChars text
  · intro canonical
    rw [normalizeChars, unifyQuotes_of_not_mem canonical.unified,
      maskNumbers_of_digitless canonical.digitless, maskNames_of_isNameless canonical.nameless,
      trimChars_eq_self_iff.2 canonical.trimmed]

theorem normalize_eq_self_iff {message : String} :
    normalize message = message ↔ IsCanonical message.toList := by
  rw [← String.toList_inj, toList_normalize, normalizeChars_eq_self_iff]

theorem isCanonical_normalize (message : String) : IsCanonical (normalize message).toList := by
  rw [toList_normalize]
  exact isCanonical_normalizeChars message.toList

end Triage.Message

namespace Triage

set_option autoImplicit false

variable {Number : Type}

/-- Whatever is made of a message looks for a normalized text. -/
theorem exists_normalize_of_mem_findPatterns {subsystems : List (Subsystem Number)}
    {diagnostics : List Diagnostic} {pattern : ErrorPattern}
    (member : pattern ∈ findPatterns subsystems diagnostics)
    (ofMessage : pattern.identifier ≠ gatheringIdentifier) :
    pattern.keywords = [] ∧ ∃ message, pattern.matcher = Message.normalize message := by
  obtain ⟨said, recurs, identifier, rfl⟩ :=
    exists_patternOfGroup_of_mem_findPatterns member ofMessage
  have occurs : said ∈ diagnostics.map Diagnostic.gist :=
    List.mem_eraseDups.1 (List.mem_filter.1 recurs).1
  obtain ⟨diagnostic, _, rfl⟩ := List.mem_map.1 occurs
  exact ⟨rfl, diagnostic.said, rfl⟩

/-- **Normalizing gives every message its canonical form.** What is normalized is canonical, and
it is left as it is by normalizing again, as the canonical texts are and no others; so every
pattern of a report that was made of a message admits the very text that it looks for. -/
theorem normalize_is_canonical (subsystems : List (Subsystem Number)) (observedAt : String)
    (diagnostics : List Diagnostic) (attention : Attention) :
    (∀ message : String,
      Message.normalize (Message.normalize message) = Message.normalize message ∧
        Message.IsCanonical (Message.normalize message).toList ∧
        (Message.normalize message = message ↔ Message.IsCanonical message.toList)) ∧
    ∀ report, (reportPatterns subsystems observedAt diagnostics).result attention = .ok report →
      ∀ pattern ∈ report.patterns, pattern.identifier ≠ gatheringIdentifier →
        pattern.admits? (.text pattern.matcher) = .ok true := by
  refine ⟨fun message => ?_, fun report returned pattern member ofMessage => ?_⟩
  · have canonical := Message.isCanonical_normalize message
    exact ⟨Message.normalize_eq_self_iff.2 canonical, canonical, Message.normalize_eq_self_iff⟩
  · rw [patterns_of_reportPatterns returned] at member
    obtain ⟨plain, message, looksFor⟩ := exists_normalize_of_mem_findPatterns member ofMessage
    have again : Message.normalize pattern.matcher = pattern.matcher := by
      rw [looksFor]
      exact Message.normalize_eq_self_iff.2 (Message.isCanonical_normalize message)
    simp [ErrorPattern.admits?, plain, Value.textOr, again, bind, Except.bind, pure, Except.pure]

theorem repeatedDiagnostics_pattern_admits_its_text :
    (Message.IsCanonical (Message.normalize " 'don''t' 12 \" it's 3 \n").toList ∧
      Message.normalize " 'don''t' 12 \" it's 3 \n" =
        "\"STRING\"\"STRING\" NUMBER \"STRING\"s NUMBER") ∧
    ∃ report pattern,
      (reportPatterns [paymentSubsystem] "" repeatedDiagnostics).result .nothing = .ok report ∧
      pattern ∈ report.patterns ∧ pattern.identifier ≠ gatheringIdentifier ∧
      pattern.matcher = "Cannot find name \"STRING\"." ∧
      pattern.admits? (.text pattern.matcher) = .ok true := by
  obtain ⟨canonical, admitted⟩ :=
    normalize_is_canonical [paymentSubsystem] "" repeatedDiagnostics .nothing
  have returned : (reportPatterns [paymentSubsystem] "" repeatedDiagnostics).result .nothing =
      .ok (recognizePatterns [paymentSubsystem] "" repeatedDiagnostics) := rfl
  have recurs : "Cannot find name \"STRING\"." ∈ recurringGists repeatedDiagnostics := by
    decide +kernel
  obtain ⟨pattern, among, identifier, looksFor⟩ :=
    exists_mem_right (forall₂_recurringGists [paymentSubsystem] repeatedDiagnostics) recurs
  have member : pattern ∈ findPatterns [paymentSubsystem] repeatedDiagnostics :=
    (perm_findPatterns _ _).mem_iff.2 (List.mem_append_left _ among)
  have ofMessage := identifier_ne_gatheringIdentifier among
  exact ⟨⟨(canonical _).2.1, by decide +kernel⟩, _, pattern, returned, member, ofMessage,
    by rw [looksFor]; rfl, admitted _ returned pattern member ofMessage⟩

end Triage
