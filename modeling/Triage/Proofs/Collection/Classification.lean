import Triage.Collection.Conversion
import Triage.Proofs.Textual

/-!
# Properties of the classification

The first rule asks whether the diagnostic concerns a designated subsystem, and no other
rule gives its category, so the category is `domain` exactly when some subsystem is
concerned (`classify_eq_domain_iff`).

Rules look at settings of any kind and may fail, but never because of a record
(`sparesRecords_classify`), and under textual settings the rules are all decided for a
whole number as the code and texts as the message and the file (`decided_classify`).
-/

namespace Triage

set_option autoImplicit false

variable {Number : Type}

/-! ## Failures of the rules -/

theorem sparesRecords_textOr {failure : Failure}
    (other : ∀ fault, failure ≠ .conversion fault) (value : Value) :
    SparesRecords (value.textOr failure) := by
  cases value with
  | text content => exact sparesRecords_ok content
  | _ => exact fun fault same => other fault (Except.error.inj same)

theorem sparesRecords_toText (value : Value) : SparesRecords value.toText :=
  sparesRecords_textOr (by simp) value

theorem sparesRecords_holds? (container item : Value) :
    SparesRecords (container.holds? item) := by
  unfold Value.holds?
  split
  · exact sparesRecords_ok _
  · exact sparesRecords_ok _
  · split
    · exact sparesRecords_ok _
    · exact fun _ same => nomatch same
  · exact fun _ same => nomatch same

theorem sparesRecords_mentionAny? (markers : List Value) (text : Value) :
    SparesRecords (Marker.mentionAny? markers text) := by
  refine sparesRecords_anyM markers fun marker => ?_
  unfold Marker.mention?
  refine (sparesRecords_toText marker).bind fun written => ?_
  split
  · exact (sparesRecords_toText text).bind fun _ => sparesRecords_ok _
  · exact sparesRecords_holds? text marker

theorem CodeRange.sparesRecords_holds? (range : CodeRange) (code : Value) :
    SparesRecords (range.holds? code) := by
  unfold CodeRange.holds?
  split
  · exact sparesRecords_ok _
  · exact sparesRecords_ok _
  · exact sparesRecords_ok _
  · exact fun _ same => nomatch same

namespace Subsystem

theorem sparesRecords_matchesText? (subsystem : Subsystem Number) (reported : Value) :
    SparesRecords (subsystem.matchesText? reported) :=
  sparesRecords_anyM _ fun keyword => sparesRecords_holds? reported keyword

theorem sparesRecords_matchesPath? (subsystem : Subsystem Number) (path : Value) :
    SparesRecords (subsystem.matchesPath? path) := by
  unfold matchesPath?
  refine (sparesRecords_textOr (by simp) path).bind fun written => ?_
  refine sparesRecords_anyM _ fun glob => ?_
  exact (sparesRecords_toText glob).bind fun _ => sparesRecords_ok _

theorem sparesRecords_concerns? (subsystem : Subsystem Number) (message file : Value) :
    SparesRecords (subsystem.concerns? message file) := by
  unfold concerns? concernsFile?
  refine (sparesRecords_matchesText? subsystem message).bind fun answer => ?_
  split
  · exact sparesRecords_ok true
  · refine (sparesRecords_matchesText? subsystem file).bind fun answer => ?_
    split
    · exact sparesRecords_ok true
    · exact sparesRecords_matchesPath? subsystem file

end Subsystem

theorem sparesRecords_concernsImport? (context : RuleContext Number) :
    SparesRecords (concernsImport? context) := by
  unfold concernsImport?
  refine (sparesRecords_anyM _ fun text => sparesRecords_holds? _ _).bind fun answer => ?_
  split
  · exact sparesRecords_ok true
  · exact sparesRecords_anyM _ fun range => range.sparesRecords_holds? _

theorem sparesRecords_concernsSecurity? (context : RuleContext Number) :
    SparesRecords (concernsSecurity? context) := by
  unfold concernsSecurity?
  refine (sparesRecords_mentionAny? _ _).bind fun answer => ?_
  split
  · exact sparesRecords_ok true
  · exact sparesRecords_mentionAny? _ _

/-- Classifying never fails because of a record. -/
theorem sparesRecords_classify (context : RuleContext Number) :
    SparesRecords (classify context) := by
  unfold classify classifyBy
  refine SparesRecords.bind (sparesRecords_findM? _ fun rule member => ?_) fun found => ?_
  · simp only [classificationRules, List.mem_cons, List.not_mem_nil, or_false] at member
    rcases member with rfl | rfl | rfl | rfl | rfl
    · exact sparesRecords_anyM _ fun subsystem => subsystem.sparesRecords_concerns? _ _
    · exact sparesRecords_concernsImport? context
    · exact CodeRange.sparesRecords_holds? _ _
    · exact CodeRange.sparesRecords_holds? _ _
    · exact sparesRecords_concernsSecurity? context
  · cases found <;> exact sparesRecords_ok _

/-! ## Rules on texts -/

/-- It is always known whether a whole number lies in a range. -/
theorem CodeRange.decided_holds? (range : CodeRange) (code : Int) :
    Decided (range.holds? (.int code)) := ⟨_, CodeRange.holds?_int range code⟩

/-- **Classifying succeeds under textual settings.** -/
theorem decided_classify {profile : Profile} {subsystems : List (Subsystem Number)}
    (profileTextual : profile.Textual) (textual : ∀ subsystem ∈ subsystems, subsystem.Textual)
    (code : Int) (message file : String) :
    Decided (classify ⟨.int code, .text message, .text file, profile, subsystems⟩) := by
  unfold classify classifyBy
  refine Decided.bind (decided_findM? fun rule member => ?_) fun found => ?_
  · simp only [classificationRules, List.mem_cons, List.not_mem_nil, or_false] at member
    rcases member with rfl | rfl | rfl | rfl | rfl
    · exact decided_anyM fun subsystem member =>
        (textual subsystem member).decided_concerns? message file
    · refine Decided.bind (decided_anyM fun text _ =>
        decided_holds? (Value.isText_text text) message) fun answer => ?_
      cases answer with
      | true => exact decided_ok true
      | false => exact decided_anyM fun range _ => range.decided_holds? code
    · exact CodeRange.decided_holds? _ code
    · exact CodeRange.decided_holds? _ code
    · refine (decided_mentionAny? profileTextual.permissive message).bind fun answer => ?_
      cases answer with
      | true => exact decided_ok true
      | false => exact decided_mentionAny? profileTextual.dynamicEval message
  · cases found <;> exact decided_ok _

/-! ## The category of designated subsystems -/

/-- The category `domain` is given exactly when some subsystem is concerned. -/
theorem classify_eq_domain_iff {context : RuleContext Number} {category : Category}
    (classified : classify context = .ok category) :
    category = .domain ↔ ∃ subsystem ∈ context.subsystems,
      subsystem.concernedBy context.message context.file = true := by
  unfold classify classifyBy classificationRules at classified
  rw [List.findM?] at classified
  obtain ⟨found, searched, named⟩ := bind_eq_ok.1 classified
  obtain ⟨answer, asked, further⟩ := bind_eq_ok.1 searched
  have concerned : context.subsystems.any
      (fun subsystem => subsystem.concernedBy context.message context.file) = answer :=
    Verdict.any_passed_of_anyM _ _ _ asked
  rw [← List.any_eq_true, concerned]
  cases answer with
  | true =>
      cases Except.ok.inj further
      exact ⟨fun _ => rfl, fun _ => (Except.ok.inj named).symm⟩
  | false =>
      -- Behind the first rule no rule gives the category of the subsystems.
      have other : category ≠ .domain := by
        cases found with
        | none => rw [← Except.ok.inj named]; decide
        | some rule =>
            rw [← Except.ok.inj named]
            have member := mem_of_findM?_eq_some further
            simp only [List.mem_cons, List.not_mem_nil, or_false] at member
            rcases member with rfl | rfl | rfl | rfl <;> simp
      exact iff_of_false other (by decide)

end Triage
