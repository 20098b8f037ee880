import Triage.Proofs.Collection.Collecting
import Triage.Proofs.SourceTree

/-!
# Every record is accounted for

A compiler gives records whose fields have fixed kinds and may be missing
(`PlainRecord`).  Of such records a report says what became of each: it was incomplete, or
it lies in a dependency, or it lies beyond the limit, or it is one of the diagnostics, and
the four counts add up to the number of records.  The diagnostics are a beginning of the
conversions of all records that are complete and wanted, so neither an incomplete record
nor a dependency takes the place of another one, and a higher limit only adds diagnostics
at the end (`collect_accounts_for_every_record`).
-/

namespace Triage

set_option autoImplicit false

/-- A record with the fields that a compiler gives it; a field may be missing. -/
structure PlainRecord where
  message : String
  severity : String
  file : Option String
  line : Option Int
  column : Option Int
  code : Option Int
deriving Repr, DecidableEq

namespace PlainRecord

/-- A whole number as the field of a record. -/
def numberValue : Option Int → Value
  | some number => .int number
  | none => .null

/-- A text as the field of a record. -/
def textValue : Option String → Value
  | some content => .text content
  | none => .null

/-- The record as it is collected. -/
def toRaw (record : PlainRecord) : RawDiagnostic where
  message := .text record.message
  severity := .text record.severity
  file := textValue record.file
  line := numberValue record.line
  column := numberValue record.column
  code := numberValue record.code

/-- Whether a record names a file and has a line, a column and a code. -/
def isComplete (record : PlainRecord) : Bool :=
  record.file.any (· ≠ "") && record.line.isSome && record.column.isSome && record.code.isSome

/-- The file of a record as a report shows it. -/
def shownFile (root : Place) (record : PlainRecord) : String :=
  projectFile root (record.file.getD "")

/-- Whether one of the names on the way to the file of a record is that of the directory of
dependencies. -/
def liesInDependency (root : Place) (record : PlainRecord) : Bool :=
  (Text.cut '/' (record.shownFile root)).contains dependencyDirectory

@[simp] theorem isNull_numberValue (number : Option Int) :
    (numberValue number).isNull = number.isNone := by
  cases number <;> rfl

@[simp] theorem isTruthy_textValue (content : Option String) :
    (textValue content).isTruthy = content.any (· ≠ "") := by
  cases content with
  | none => rfl
  | some content =>
      rw [Bool.eq_iff_iff]
      simp [textValue, Value.isTruthy]

@[simp] theorem isComplete_toRaw (record : PlainRecord) :
    record.toRaw.isComplete = record.isComplete := by
  simp [RawDiagnostic.isComplete, isComplete, toRaw]

/-- A complete record gives all four of its fields. -/
theorem exists_of_isComplete {record : PlainRecord} (complete : record.isComplete = true) :
    ∃ file line column code, record.file = some file ∧ file ≠ "" ∧ record.line = some line ∧
      record.column = some column ∧ record.code = some code := by
  simp only [isComplete, Bool.and_eq_true, Option.any_eq_true, Option.isSome_iff_exists,
    decide_eq_true_eq] at complete
  obtain ⟨⟨⟨⟨file, named, filled⟩, line, placed⟩, column, ranged⟩, code, coded⟩ := complete
  exact ⟨file, line, column, code, named, filled, placed, ranged, coded⟩

/-- The diagnostic of a complete record needs a category and nothing else. -/
theorem convert_toRaw {Number : Type} {record : PlainRecord} {file : String}
    {line column code : Int} (named : record.file = some file) (filled : file ≠ "")
    (placed : record.line = some line) (ranged : record.column = some column)
    (coded : record.code = some code) (root : Place) (profile : Profile)
    (subsystems : List (Subsystem Number)) :
    record.toRaw.convert root profile subsystems = do
      let category ← classify
        ⟨.int code, .text record.message, .text (projectFile root file), profile, subsystems⟩
      return { code := .int code, message := .text record.message
               file := .text (projectFile root file), line := .int line, column := .int column
               severity := severityOf record.severity, category } := by
  have complete : record.toRaw.isComplete = true := by
    simp [isComplete, named, filled, placed, ranged, coded]
  rw [RawDiagnostic.convert_of_isComplete complete]
  simp only [toRaw, named, placed, ranged, coded]
  rfl

/-- A diagnostic shows the file of its record. -/
theorem file_of_convert {Number : Type} {record : PlainRecord} {root : Place} {profile : Profile}
    {subsystems : List (Subsystem Number)} {diagnostic : Diagnostic}
    (complete : record.isComplete = true)
    (converted : record.toRaw.convert root profile subsystems = .ok diagnostic) :
    diagnostic.file = .text (record.shownFile root) := by
  obtain ⟨file, line, column, code, named, filled, placed, ranged, coded⟩ :=
    exists_of_isComplete complete
  rw [convert_toRaw named filled placed ranged coded, bind_eq_ok] at converted
  obtain ⟨category, _, made⟩ := converted
  rw [← Except.ok.inj made, shownFile, named, Option.getD_some]

end PlainRecord

variable {Number : Type}

/-- Whether a record is to become a diagnostic: it is complete, and dependencies are wanted
or it lies in none. -/
def PlainRecord.isWanted (root : Place) (options : Options Number) (record : PlainRecord) : Bool :=
  record.isComplete && (options.includeDependencies || !record.liesInDependency root)

/-- A complete record and its diagnostic. -/
def PlainRecord.Becomes (root : Place) (profile : Profile) (options : Options Number)
    (record : PlainRecord) (diagnostic : Diagnostic) : Prop :=
  record.isComplete = true ∧
    record.toRaw.convert root profile options.subsystems = .ok diagnostic

/-- The diagnostics of a list of records are those of the complete records, one by one. -/
theorem forall₂_becomes {root : Place} {profile : Profile} {options : Options Number}
    {records : List PlainRecord} {converted : List Diagnostic}
    (images : (((records.map PlainRecord.toRaw).filter RawDiagnostic.isComplete).mapM fun raw =>
      raw.convert root profile options.subsystems) = .ok converted) :
    List.Forall₂ (PlainRecord.Becomes root profile options)
      (records.filter PlainRecord.isComplete) converted := by
  have commute : (records.map PlainRecord.toRaw).filter RawDiagnostic.isComplete =
      (records.filter PlainRecord.isComplete).map PlainRecord.toRaw := by
    simp [List.filter_map, Function.comp_def]
  rw [commute, mapM_eq_ok_iff, List.forall₂_map_left_iff] at images
  exact (List.forall₂_and_left _ _).2
    ⟨fun record member => (List.mem_filter.1 member).2, images⟩

/-- A complete record is wanted when the options keep its diagnostic. -/
theorem PlainRecord.Becomes.isWanted_eq {root : Place} {profile : Profile}
    {options : Options Number} {record : PlainRecord} {diagnostic : Diagnostic}
    (becomes : record.Becomes root profile options diagnostic) :
    record.isWanted root options = options.keeps diagnostic := by
  rw [Options.keeps, file_of_convert becomes.1 becomes.2, isWanted, becomes.1]
  rfl

/-- Lists that are related item by item count the same when related items count alike. -/
theorem countP_eq_of_forall₂ {First Second : Type} {related : First → Second → Prop}
    {counts : First → Bool} {alike : Second → Bool} {items : List First} {images : List Second}
    (each : List.Forall₂ related items images)
    (agree : ∀ item image, related item image → counts item = alike image) :
    items.countP counts = images.countP alike := by
  induction each with
  | nil => rfl
  | cons here _ ih => rw [List.countP_cons, List.countP_cons, ih, agree _ _ here]

/-- What a report says of the records that it was made of. -/
structure AccountsFor (root : Place) (profile : Profile) (options : Options Number) (limit : Int)
    (records : List PlainRecord) (report : CollectionReport) : Prop where
  totalRaw : report.totalRaw = records.length
  /-- No record is lost, and none is counted twice. -/
  total : report.totalRaw = report.diagnostics.length + report.truncated + report.skipped +
    report.excludedDependencies
  skipped : report.skipped = records.countP fun record => !record.isComplete
  excluded : report.excludedDependencies =
    if options.includeDependencies then 0
    else records.countP fun record => record.isComplete && record.liesInDependency root
  /-- The diagnostics are the first conversions of the records that are wanted. -/
  diagnostics : ∃ converted,
    ((records.filter (PlainRecord.isWanted root options)).mapM fun record =>
      record.toRaw.convert root profile options.subsystems) = .ok converted ∧
    report.diagnostics = converted.take limit.toNat

/-- The report of records accounts for them. -/
theorem accountsFor_of_collectRecords {disk : Disk} {tree : SourceTree} {profile : Profile}
    {options : Options Number} {limit : Int} {records : List PlainRecord}
    {report : CollectionReport} (limited : options.maxDiagnostics = some limit)
    (nonneg : 0 ≤ limit)
    (collected : collectRecords disk tree profile options (records.map PlainRecord.toRaw) =
      .ok report) :
    AccountsFor tree.root profile options limit records report := by
  have total := total_of_collectRecords limited nonneg collected
  obtain ⟨converted, images, rfl⟩ := collectRecords_eq_ok_iff.1 collected
  have each := forall₂_becomes images
  have skipped : (records.map PlainRecord.toRaw).countP (fun raw => !raw.isComplete) =
      records.countP fun record => !record.isComplete := by
    simp [List.countP_map, Function.comp_def]
  have dropped : (records.filter PlainRecord.isComplete).countP
      (fun record => !record.isWanted tree.root options) =
        converted.countP fun diagnostic => !options.keeps diagnostic :=
    countP_eq_of_forall₂ each fun record diagnostic becomes => by rw [becomes.isWanted_eq]
  have among : (records.filter PlainRecord.isComplete).filter
      (PlainRecord.isWanted tree.root options) =
        records.filter (PlainRecord.isWanted tree.root options) := by
    rw [List.filter_filter]
    refine List.filter_congr fun record _ => ?_
    simp only [PlainRecord.isWanted]
    cases record.isComplete <;> simp
  have wanted : ((records.filter (PlainRecord.isWanted tree.root options)).mapM fun record =>
      record.toRaw.convert tree.root profile options.subsystems) =
        .ok (converted.filter options.keeps) := by
    have related : List.Forall₂ (PlainRecord.Becomes tree.root profile options) _ _ :=
      List.rel_filter (fun record diagnostic becomes => iff_of_eq
        (congrArg (· = true) becomes.isWanted_eq)) each
    rw [mapM_eq_ok_iff, ← among]
    exact related.imp fun _ _ becomes => becomes.2
  refine ⟨by simp [reportOf], total, skipped, ?_, ⟨_, wanted, ?_⟩⟩
  · simp only [reportOf, ← dropped, List.countP_filter]
    cases included : options.includeDependencies with
    | true => simp [PlainRecord.isWanted, included]
    | false =>
        refine List.countP_congr fun record _ => ?_
        simp only [PlainRecord.isWanted, included]
        cases record.isComplete <;> simp
  · simp only [reportOf, limited, keepLimited_of_nonneg nonneg]

/-- Plain records can be sorted under textual settings. -/
theorem decided_collectRecords {disk : Disk} {tree : SourceTree} {profile : Profile}
    {options : Options Number} (profileTextual : profile.Textual) (textual : options.Textual)
    (records : List PlainRecord) :
    Decided (collectRecords disk tree profile options (records.map PlainRecord.toRaw)) := by
  have images : Decided (((records.map PlainRecord.toRaw).filter RawDiagnostic.isComplete).mapM
      fun raw => raw.convert tree.root profile options.subsystems) := by
    refine decided_mapM fun raw member => ?_
    obtain ⟨listed, complete⟩ := List.mem_filter.1 member
    obtain ⟨record, _, rfl⟩ := List.mem_map.1 listed
    rw [PlainRecord.isComplete_toRaw] at complete
    obtain ⟨file, line, column, code, named, filled, placed, ranged, coded⟩ :=
      PlainRecord.exists_of_isComplete complete
    rw [PlainRecord.convert_toRaw named filled placed ranged coded]
    exact (decided_classify profileTextual textual code _ _).bind fun category => decided_ok _
  obtain ⟨converted, found⟩ := images
  exact ⟨_, collectRecords_eq_ok_iff.2 ⟨converted, found, rfl⟩⟩

/-- What a collection of plain records answers under a limit. -/
def collectPlain (disk : Disk) (tree : SourceTree) (profile : Profile) (options : Options Number)
    (attention : Attention) (limit : Int) (records : List PlainRecord) :
    Except Failure CollectionReport :=
  ((collect disk tree profile { options with maxDiagnostics := some limit }
    (.records (records.map PlainRecord.toRaw))).perform attention).1

/-- A report that is returned is the report of the records. -/
theorem collectRecords_of_collectPlain {disk : Disk} {tree : SourceTree} {profile : Profile}
    {options : Options Number} {attention : Attention} {limit : Int} {records : List PlainRecord}
    {report : CollectionReport}
    (returned : collectPlain disk tree profile options attention limit records = .ok report) :
    collectRecords disk tree profile { options with maxDiagnostics := some limit }
      (records.map PlainRecord.toRaw) = .ok report := by
  rw [collectPlain, Run.perform_fst] at returned
  obtain ⟨listed, read, collected⟩ := collectRecords_of_collect returned
  rw [← Except.ok.inj read] at collected
  exact collected

/-- A report of plain records is returned when the settings are textual and the source files
can be listed. -/
theorem decided_collectPlain {disk : Disk} {tree : SourceTree} {profile : Profile}
    {options : Options Number} (profileTextual : profile.Textual) (textual : options.Textual)
    (listed : Decided (tree.files? disk)) (attention : Attention) (limit : Int)
    (records : List PlainRecord) :
    Decided (collectPlain disk tree profile options attention limit records) := by
  have limited : ({ options with maxDiagnostics := some limit } : Options Number).Textual :=
    textual
  obtain ⟨report, collected⟩ : Decided (collectRecords disk tree profile _ _) :=
    decided_collectRecords profileTextual limited records
  have returns : (collect disk tree profile _ (.records _)).Returns attention (.ok report) :=
    returns_collect (Run.returns_pure _) collected listed limited
  exact ⟨report, returns.perform⟩

end Triage
