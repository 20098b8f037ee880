import Triage.Proofs.Collection.Sorting
import Triage.Proofs.Run
import Triage.Proofs.SourceTree

/-!
# What a collection returns

A collection that returns has returned the report of the records of its source
(`collectRecords_of_collect`).  It does return when the records can be read and sorted, the
source files can be listed and the subsystems are textual (`returns_collect`): making notes
and looking into source files ends no collection then.  In a report every record is counted once,
as a diagnostic or among those that were dropped (`total_of_collectRecords`).
-/

namespace Triage

set_option autoImplicit false

variable {Number : Type} {disk : Disk} {tree : SourceTree} {profile : Profile}
  {options : Options Number} {attention : Attention} {notes : List Note}

/-- The report of records is made of the conversions of those that are complete. -/
theorem collectRecords_eq_ok_iff {records : List RawDiagnostic} {report : CollectionReport} :
    collectRecords disk tree profile options records = .ok report ↔
      ∃ converted,
        ((records.filter RawDiagnostic.isComplete).mapM fun raw =>
          raw.convert tree.root profile options.subsystems) = .ok converted ∧
        report = reportOf disk tree options records
          { converted := converted.filter options.keeps
            skipped := records.countP fun raw => !raw.isComplete
            excluded := converted.countP fun diagnostic => !options.keeps diagnostic } := by
  unfold collectRecords
  rw [sortRecords_eq, bind_eq_ok]
  constructor
  · rintro ⟨sorted, found, same⟩
    obtain ⟨converted, images, made⟩ := bind_eq_ok.1 found
    obtain rfl := Except.ok.inj made
    exact ⟨converted, images, (Except.ok.inj same).symm⟩
  · rintro ⟨converted, images, rfl⟩
    exact ⟨_, bind_eq_ok.2 ⟨converted, images, rfl⟩, rfl⟩

/-- A limit that is not negative keeps a beginning of that length. -/
theorem keepLimited_of_nonneg {limit : Int} (nonneg : 0 ≤ limit) (diagnostics : List Diagnostic) :
    keepLimited (some limit) diagnostics = diagnostics.take limit.toNat :=
  takeLimited_of_nonneg limit diagnostics nonneg

/-- **No record is lost, and none is counted twice.** -/
theorem total_of_collectRecords {limit : Int} (limited : options.maxDiagnostics = some limit)
    (nonneg : 0 ≤ limit) {records : List RawDiagnostic} {report : CollectionReport}
    (collected : collectRecords disk tree profile options records = .ok report) :
    report.totalRaw = report.diagnostics.length + report.truncated + report.skipped +
      report.excludedDependencies := by
  obtain ⟨converted, images, rfl⟩ := collectRecords_eq_ok_iff.1 collected
  -- Records are complete or not, conversions are kept or not, and kept ones are cut or not.
  have complete := (mapM_eq_ok_iff.1 images).length_eq
  have parted : records.length = (records.filter RawDiagnostic.isComplete).length +
      records.countP fun raw => !raw.isComplete := by
    simpa [List.countP_eq_length_filter] using
      List.length_eq_countP_add_countP RawDiagnostic.isComplete (l := records)
  have kept : converted.length = (converted.filter options.keeps).length +
      converted.countP fun diagnostic => !options.keeps diagnostic := by
    simpa [List.countP_eq_length_filter] using
      List.length_eq_countP_add_countP options.keeps (l := converted)
  simp only [reportOf, limited, keepLimited_of_nonneg nonneg, List.length_take]
  omega

/-- A limit only leaves diagnostics out. -/
theorem mem_of_mem_keepLimited {limit : Option Int} {diagnostics : List Diagnostic}
    {diagnostic : Diagnostic} (member : diagnostic ∈ keepLimited limit diagnostics) :
    diagnostic ∈ diagnostics := by
  unfold keepLimited takeLimited at member
  split at member
  · exact member
  · split at member <;> exact List.mem_of_mem_take member

/-- Every diagnostic of a report has the category of what it shows. -/
theorem classify_of_mem_collectRecords {records : List RawDiagnostic} {report : CollectionReport}
    (collected : collectRecords disk tree profile options records = .ok report)
    {diagnostic : Diagnostic} (member : diagnostic ∈ report.diagnostics) :
    classify ⟨diagnostic.code, diagnostic.message, diagnostic.file, profile,
      options.subsystems⟩ = .ok diagnostic.category := by
  obtain ⟨converted, images, rfl⟩ := collectRecords_eq_ok_iff.1 collected
  have kept := (List.mem_filter.1 (mem_of_mem_keepLimited member)).1
  obtain ⟨raw, _, here⟩ := exists_of_mem_mapM images kept
  exact RawDiagnostic.classify_of_convert here

/-- Looking into the files of textual subsystems ends no run once the files are listed. -/
theorem returns_noteFeatures (listed : Decided (tree.files? disk)) (survey : FeatureSurvey)
    (subsystems : List (Subsystem Number))
    (textual : ∀ subsystem ∈ subsystems, subsystem.Textual) :
    (noteFeatures disk tree survey subsystems).Returns attention (.ok ()) := by
  induction subsystems generalizing survey with
  | nil => exact Run.returns_pure ()
  | cons subsystem rest ih =>
      have here := textual subsystem (by simp)
      unfold noteFeatures
      rw [here.checkFilesFor listed, here.checkEntry]
      refine (Run.returns_lift _).bind ((Run.returns_forIn _ _ fun place => ?_).bind
        ((Run.returns_lift _).bind (ih _ fun other member => textual other (by simp [member]))))
      exact Run.returns_note .warning _

/-- Records that can be sorted are reported. -/
theorem returns_reportRecords {records : List RawDiagnostic} {report : CollectionReport}
    (collected : collectRecords disk tree profile options records = .ok report)
    (listed : Decided (tree.files? disk)) (textual : options.Textual) :
    (reportRecords disk tree profile options records).Returns attention (.ok report) := by
  unfold reportRecords
  rw [collected]
  obtain ⟨places, found⟩ := listed
  refine (Run.returns_lift _).bind (Run.Returns.bind_ite (Run.returns_note .info _)
    (Run.Returns.bind_ite (Run.returns_note .warning _) ?_))
  refine (returns_noteFeatures ⟨places, found⟩ .empty options.subsystems textual).bind ?_
  rw [found]
  exact (Run.returns_lift (.ok places)).discard.bind (Run.returns_pure report)

/-- What a collection returns is the report of the records of its source. -/
theorem collectRecords_of_collect {source : DiagnosticSource} {report : CollectionReport}
    (returned : ((collect disk tree profile options source).outcome attention notes).1 =
      .ok report) :
    ∃ records,
      ((source.read disk tree.root profile).outcome attention notes).1 = .ok records ∧
      collectRecords (source.diskAfter disk tree.root profile) tree profile options records =
        .ok report := by
  obtain ⟨records, noted, read, reported⟩ := Run.ok_of_bind returned
  refine ⟨records, read, ?_⟩
  unfold reportRecords at reported
  obtain ⟨made, noted, collected, further⟩ := Run.ok_of_lift_bind reported
  obtain ⟨noted, further⟩ := Run.ok_of_bind_ite further
  obtain ⟨noted, further⟩ := Run.ok_of_bind_ite further
  obtain ⟨_, noted, _, further⟩ := Run.ok_of_bind further
  obtain ⟨_, noted, _, further⟩ := Run.ok_of_bind further
  rw [← Run.ok_of_pure further]
  exact collected

/-- **A collection returns the report of its records** when they can be read and sorted, the
source files can be listed and the subsystems are textual. -/
theorem returns_collect {source : DiagnosticSource} {records : List RawDiagnostic}
    {report : CollectionReport}
    (read : (source.read disk tree.root profile).Returns attention (.ok records))
    (collected : collectRecords (source.diskAfter disk tree.root profile) tree profile options
      records = .ok report)
    (listed : Decided (tree.files? (source.diskAfter disk tree.root profile)))
    (textual : options.Textual) :
    (collect disk tree profile options source).Returns attention (.ok report) :=
  read.bind (returns_reportRecords collected listed textual)

end Triage
