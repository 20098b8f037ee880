import Triage.Config
import Triage.Diagnostic
import Triage.Marker
import Triage.Proofs.Verdict

/-!
# Settings that are texts

A configuration keeps names, keywords, globs and markers as they were written, and one of
them that is no text fails the first test that looks at it.  Settings are textual when all
of these are texts, as they are meant to be.  Tests of textual settings on messages and
files that are texts are decided: whether a marker is mentioned
(`decided_mentionAny?`), whether a keyword or a glob applies, and so whether a subsystem is
concerned (`Subsystem.Textual.decided_concerns?`).
-/

namespace Triage

set_option autoImplicit false

variable {Number : Type}

/-- A value is a text. -/
def Value.IsText (value : Value) : Prop := ∃ content, value = .text content

theorem Value.isText_text (content : String) : (Value.text content).IsText := ⟨content, rfl⟩

theorem isText_of_mem_textValues {texts : List String} :
    ∀ value ∈ textValues texts, value.IsText := by
  intro value member
  obtain ⟨content, _, rfl⟩ := List.mem_map.1 member
  exact Value.isText_text content

instance : DecidablePred Value.IsText
  | .text content => isTrue ⟨content, rfl⟩
  | .null | .bool _ | .int _ | .float _ | .undefined _ | .moment _ | .list _ | .table _ =>
      isFalse fun ⟨_, same⟩ => nomatch same

/-- The name, the keywords and the globs of a subsystem are texts. -/
structure Subsystem.Textual (subsystem : Subsystem Number) : Prop where
  name : subsystem.name.IsText
  keywords : ∀ keyword ∈ subsystem.keywords, keyword.IsText
  globs : ∀ glob ∈ subsystem.globs, glob.IsText

instance (subsystem : Subsystem Number) : Decidable subsystem.Textual :=
  decidable_of_iff
    (subsystem.name.IsText ∧ (∀ keyword ∈ subsystem.keywords, keyword.IsText) ∧
      ∀ glob ∈ subsystem.globs, glob.IsText)
    ⟨fun ⟨name, keywords, globs⟩ => ⟨name, keywords, globs⟩,
      fun ⟨name, keywords, globs⟩ => ⟨name, keywords, globs⟩⟩

/-- The message and the file of a diagnostic are texts. -/
structure Diagnostic.Textual (diagnostic : Diagnostic) : Prop where
  message : diagnostic.message.IsText
  file : diagnostic.file.IsText

instance (diagnostic : Diagnostic) : Decidable diagnostic.Textual :=
  decidable_of_iff (diagnostic.message.IsText ∧ diagnostic.file.IsText)
    ⟨fun ⟨message, file⟩ => ⟨message, file⟩, fun ⟨message, file⟩ => ⟨message, file⟩⟩

theorem Diagnostic.Textual.checkFile {diagnostic : Diagnostic} (textual : diagnostic.Textual) :
    diagnostic.checkFile = .ok () := by
  obtain ⟨content, written⟩ := textual.file
  rw [Diagnostic.checkFile, written]
  rfl

/-- All subsystems of the options are given by texts. -/
def Options.Textual (options : Options Number) : Prop :=
  ∀ subsystem ∈ options.subsystems, subsystem.Textual

instance (options : Options Number) : Decidable options.Textual :=
  inferInstanceAs (Decidable (∀ subsystem ∈ options.subsystems, subsystem.Textual))

/-- The markers of a profile are texts. -/
structure Profile.Textual (profile : Profile) : Prop where
  permissive : ∀ marker ∈ profile.permissiveMarkers, marker.IsText
  dynamicEval : ∀ marker ∈ profile.dynamicEvalMarkers, marker.IsText
  infrastructure : ∀ marker ∈ profile.infrastructureMarkers, marker.IsText

instance (profile : Profile) : Decidable profile.Textual :=
  decidable_of_iff
    ((∀ marker ∈ profile.permissiveMarkers, marker.IsText) ∧
      (∀ marker ∈ profile.dynamicEvalMarkers, marker.IsText) ∧
      ∀ marker ∈ profile.infrastructureMarkers, marker.IsText)
    ⟨fun ⟨permissive, dynamicEval, infrastructure⟩ => ⟨permissive, dynamicEval, infrastructure⟩,
      fun ⟨permissive, dynamicEval, infrastructure⟩ => ⟨permissive, dynamicEval, infrastructure⟩⟩

/-- The standard profile is textual. -/
theorem Profile.textual_standard : ({} : Profile).Textual where
  permissive := @isText_of_mem_textValues ["any", "unknown"]
  dynamicEval := @isText_of_mem_textValues ["eval", "Function("]
  infrastructure := @isText_of_mem_textValues ["auth", "server"]

/-- A subsystem of payments. -/
def paymentSubsystem : Subsystem Nat :=
  { name := .text "payments", keywords := [.text "Payment"], globs := [.text "**/payments/*"]
    tier := .secondary, healthThreshold := 90, criticalThreshold := 5, recommendation := .null
    validationSteps := [] }

theorem textual_paymentSubsystem : paymentSubsystem.Textual where
  name := Value.isText_text _
  keywords := @isText_of_mem_textValues ["Payment"]
  globs := @isText_of_mem_textValues ["**/payments/*"]

/-! ## Tests on texts -/

/-- A list of texts is tried one by one. -/
theorem anyM_textValues {test : Value → Verdict} {plain : String → Bool}
    (agree : ∀ content, test (.text content) = .ok (plain content)) (texts : List String) :
    (textValues texts).anyM test = .ok (texts.any plain) := by
  have each : ∀ value ∈ textValues texts, test value = .ok (Verdict.passed (test value)) := by
    intro value member
    obtain ⟨content, _, rfl⟩ := List.mem_map.1 member
    rw [agree, Verdict.passed_ok]
  rw [Verdict.anyM_eq_ok test _ _ each, textValues, List.any_map]
  simp only [Function.comp_def, agree, Verdict.passed_ok]

theorem decided_holds? {piece : Value} (isText : piece.IsText) (whole : String) :
    Decided ((Value.text whole).holds? piece) := by
  obtain ⟨content, rfl⟩ := isText
  exact decided_ok _

/-- It is always known whether a text mentions one of a list of texts. -/
theorem decided_mentionAny? {markers : List Value} (texts : ∀ marker ∈ markers, marker.IsText)
    (message : String) : Decided (Marker.mentionAny? markers (.text message)) := by
  refine decided_anyM fun marker member => ?_
  obtain ⟨content, rfl⟩ := texts marker member
  exact ⟨_, Marker.mention?_text content message⟩

namespace Subsystem.Textual

variable {subsystem : Subsystem Number} (textual : subsystem.Textual)
include textual

theorem decided_matchesText? (reported : String) :
    Decided (subsystem.matchesText? (.text reported)) :=
  decided_anyM fun keyword member => decided_holds? (textual.keywords keyword member) reported

theorem decided_matchesPath? (path : String) : Decided (subsystem.matchesPath? (.text path)) := by
  unfold matchesPath?
  refine (decided_ok path).bind fun written => decided_anyM fun glob member => ?_
  obtain ⟨content, rfl⟩ := textual.globs glob member
  exact decided_ok _

/-- **A textual subsystem selects a path** when one of its globs selects it, written with
slashes. -/
theorem matchesPath_iff (path : String) :
    subsystem.matchesPath (.text path) = true ↔
      ∃ glob, .text glob ∈ subsystem.globs ∧
        globSelects (Text.slashed path).toList glob.toList = true := by
  obtain ⟨answer, found⟩ := textual.decided_matchesPath? path
  have told : subsystem.globs.any (fun glob =>
      (globSelects? (Text.substitute '\\' '/' path.toList) glob).passed) = answer :=
    Verdict.any_passed_of_anyM _ _ _ found
  rw [matchesPath, found, Verdict.passed_ok, ← told, List.any_eq_true, Text.slashed,
    String.toList_ofList]
  constructor
  · rintro ⟨glob, member, selects⟩
    obtain ⟨content, rfl⟩ := textual.globs glob member
    exact ⟨content, member, selects⟩
  · rintro ⟨content, member, selects⟩
    exact ⟨.text content, member, selects⟩

theorem decided_concernsFile? (file : String) :
    Decided (subsystem.concernsFile? (.text file)) := by
  unfold concernsFile?
  refine (textual.decided_matchesText? file).bind fun answer => ?_
  cases answer with
  | true => exact decided_ok true
  | false => exact textual.decided_matchesPath? file

/-- It is always known whether a diagnostic concerns a textual subsystem. -/
theorem decided_concerns? (message file : String) :
    Decided (subsystem.concerns? (.text message) (.text file)) := by
  unfold concerns?
  refine (textual.decided_matchesText? message).bind fun answer => ?_
  cases answer with
  | true => exact decided_ok true
  | false => exact textual.decided_concernsFile? file

theorem decided_concerns_of_textual {diagnostic : Diagnostic} (given : diagnostic.Textual) :
    Decided (subsystem.concerns? diagnostic.message diagnostic.file) := by
  obtain ⟨message, said⟩ := given.message
  obtain ⟨file, written⟩ := given.file
  rw [said, written]
  exact textual.decided_concerns? message file

/-- Entries of a report can be filed under the name of a textual subsystem. -/
theorem checkEntry : subsystem.checkEntry = .ok () := by
  obtain ⟨content, named⟩ := textual.name
  simp [Subsystem.checkEntry, named, Value.namesEntry]

/-- It can be told which of the diagnostics concern a textual subsystem. -/
theorem checkConcerns {diagnostics : List Diagnostic}
    (given : ∀ diagnostic ∈ diagnostics, diagnostic.Textual) :
    (diagnostics.forM fun diagnostic =>
      (subsystem.concerns? diagnostic.message diagnostic.file).check : Except Failure Unit) =
        .ok () :=
  forM_eq_ok_iff.2 fun diagnostic member =>
    (textual.decided_concerns_of_textual (given diagnostic member)).check

end Subsystem.Textual

end Triage
