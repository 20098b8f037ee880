import Triage.Collection.Collector
import Triage.Proofs.Collection.Classification

/-!
# How records are sorted

A record is complete when it has a file, a line, a column and a code.  Records that are
not complete are exactly those that fail as records, so sorting is the conversion of the
complete records in their order, the failures of which are failures of the whole, with
the incomplete ones counted beside it and the dependencies taken out behind it
(`sortRecords_eq`).
-/

namespace Triage

set_option autoImplicit false

variable {Number : Type}

/-- Whether a record has all that a diagnostic needs: a file with a name, a position and a
code. -/
def RawDiagnostic.isComplete (raw : RawDiagnostic) : Bool :=
  raw.file.isTruthy && !raw.line.isNull && !raw.column.isNull && !raw.code.isNull

/-- Whether the options leave a diagnostic in. -/
def Options.keeps (options : Options Number) (diagnostic : Diagnostic) : Bool :=
  options.includeDependencies || !isDependency diagnostic.file.display

/-- The conversion of a complete record: its checks are passed. -/
theorem RawDiagnostic.convert_of_isComplete {raw : RawDiagnostic} (complete : raw.isComplete)
    (root : Place) (profile : Profile) (subsystems : List (Subsystem Number)) :
    raw.convert root profile subsystems = do
      let file := Value.text (projectFile root (← raw.file.toText))
      let severity := severityOf (← raw.severity.textOr .notATable)
      let category ← classify ⟨raw.code, raw.message, file, profile, subsystems⟩
      return { code := raw.code, message := raw.message, file, line := raw.line
               column := raw.column, severity, category } := by
  simp only [isComplete, Bool.and_eq_true, Bool.not_eq_true'] at complete
  obtain ⟨⟨⟨named, placed⟩, ranged⟩, coded⟩ := complete
  simp [convert, named, placed, ranged, coded]

/-- A record that is not complete fails as a record. -/
theorem RawDiagnostic.convert_of_not_isComplete {raw : RawDiagnostic}
    (incomplete : raw.isComplete = false) (root : Place) (profile : Profile)
    (subsystems : List (Subsystem Number)) :
    ∃ fault, raw.convert root profile subsystems = .error (.conversion fault) := by
  unfold convert
  by_cases named : raw.file.isTruthy
  · by_cases placed : raw.line.isNull || raw.column.isNull
    · exact ⟨.noPosition raw.file, by simp [named, placed]; rfl⟩
    · have coded : raw.code.isNull = true := by
        simp only [Bool.or_eq_true, not_or, Bool.not_eq_true] at placed
        simpa [isComplete, named, placed] using incomplete
      exact ⟨.noCode raw.file raw.line, by simp [named, placed, coded]; rfl⟩
  · exact ⟨.noFile raw.message, by simp [named]; rfl⟩

/-- A record that was converted is complete. -/
theorem RawDiagnostic.isComplete_of_convert {raw : RawDiagnostic} {root : Place}
    {profile : Profile} {subsystems : List (Subsystem Number)} {diagnostic : Diagnostic}
    (converted : raw.convert root profile subsystems = .ok diagnostic) : raw.isComplete = true := by
  cases complete : raw.isComplete with
  | true => rfl
  | false =>
      obtain ⟨fault, failed⟩ := convert_of_not_isComplete complete root profile subsystems
      rw [failed] at converted
      cases converted

/-- **What becomes of a record**: it has to be complete, its file and its severity have to be
texts, and the rules have to classify it. -/
theorem RawDiagnostic.convert_eq_ok_iff {raw : RawDiagnostic} {root : Place} {profile : Profile}
    {subsystems : List (Subsystem Number)} {diagnostic : Diagnostic} :
    raw.convert root profile subsystems = .ok diagnostic ↔
      raw.isComplete = true ∧ ∃ file severity category,
        raw.file.toText = .ok file ∧ raw.severity.textOr .notATable = .ok severity ∧
        classify ⟨raw.code, raw.message, .text (projectFile root file), profile, subsystems⟩ =
          .ok category ∧
        diagnostic =
          { code := raw.code, message := raw.message, file := .text (projectFile root file)
            line := raw.line, column := raw.column, severity := severityOf severity, category } := by
  constructor
  · intro converted
    have complete := isComplete_of_convert converted
    rw [convert_of_isComplete complete] at converted
    obtain ⟨file, named, converted⟩ := bind_eq_ok.1 converted
    obtain ⟨severity, worded, converted⟩ := bind_eq_ok.1 converted
    obtain ⟨category, classified, made⟩ := bind_eq_ok.1 converted
    exact ⟨complete, file, severity, category, named, worded, classified,
      (Except.ok.inj made).symm⟩
  · rintro ⟨complete, file, severity, category, named, worded, classified, rfl⟩
    rw [convert_of_isComplete complete, bind_eq_ok]
    refine ⟨file, named, bind_eq_ok.2 ⟨severity, worded, ?_⟩⟩
    exact bind_eq_ok.2 ⟨category, classified, rfl⟩

/-- A diagnostic has the category of what it shows itself: it is classified by the file that
it shows, and not by the one that its record gave. -/
theorem RawDiagnostic.classify_of_convert {raw : RawDiagnostic} {root : Place}
    {profile : Profile} {subsystems : List (Subsystem Number)} {diagnostic : Diagnostic}
    (converted : raw.convert root profile subsystems = .ok diagnostic) :
    classify ⟨diagnostic.code, diagnostic.message, diagnostic.file, profile, subsystems⟩ =
      .ok diagnostic.category := by
  obtain ⟨_, _, _, _, _, _, classified, rfl⟩ := convert_eq_ok_iff.1 converted
  exact classified

/-- A complete record does not fail as a record. -/
theorem RawDiagnostic.sparesRecords_convert {raw : RawDiagnostic} (complete : raw.isComplete)
    (root : Place) (profile : Profile) (subsystems : List (Subsystem Number)) :
    SparesRecords (raw.convert root profile subsystems) := by
  rw [convert_of_isComplete complete]
  refine (sparesRecords_toText raw.file).bind fun file => ?_
  refine (sparesRecords_textOr (by simp) raw.severity).bind fun severity => ?_
  exact (sparesRecords_classify _).bind fun category => sparesRecords_ok _

/-- **Sorting converts the complete records and takes the dependencies out.** -/
theorem sortRecords_eq (root : Place) (profile : Profile) (options : Options Number)
    (records : List RawDiagnostic) :
    sortRecords root profile options records = do
      let converted ← (records.filter RawDiagnostic.isComplete).mapM fun raw =>
        raw.convert root profile options.subsystems
      return { converted := converted.filter options.keeps
               skipped := records.countP fun raw => !raw.isComplete
               excluded := converted.countP fun diagnostic => !options.keeps diagnostic } := by
  induction records with
  | nil => rfl
  | cons raw rest ih =>
      rw [sortRecords]
      cases complete : raw.isComplete with
      | false =>
          obtain ⟨fault, failed⟩ := RawDiagnostic.convert_of_not_isComplete complete root profile
            options.subsystems
          simp [failed, ih, complete]
      | true =>
          rw [List.filter_cons_of_pos (by simp [complete]), List.mapM_cons]
          cases found : raw.convert root profile options.subsystems with
          | error failure =>
              have spared := RawDiagnostic.sparesRecords_convert complete root profile
                options.subsystems
              cases failure with
              | conversion fault => exact absurd found (spared fault)
              | _ => rfl
          | ok diagnostic =>
              simp only [ih]
              cases (rest.filter RawDiagnostic.isComplete).mapM fun raw =>
                  raw.convert root profile options.subsystems with
              | error failure => rfl
              | ok converted =>
                  have dropped : (!options.includeDependencies &&
                      isDependency diagnostic.file.display) = !options.keeps diagnostic := by
                    simp [Options.keeps]
                  simp only [dropped, bind, Except.bind, pure, Except.pure]
                  cases kept : options.keeps diagnostic <;> simp [kept, complete]

end Triage
