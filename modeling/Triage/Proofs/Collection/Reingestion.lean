import Triage.Proofs.Collection.Accounting
import Triage.Proofs.Collection.FeatureHealth
import Triage.Proofs.Path
import Triage.Proofs.Report.Export
import Triage.Project

/-!
# Collecting from an exported report

A diagnostic of plain records has a number, a text or a shown file in each of its fields
(`Diagnostic.IsSettled`).  Taken for a record it is converted to itself, so the diagnostics
of a report, taken for records under the same settings, are its diagnostics again, none of
them left out (`collectRecords_again`).  Their tables are read back from the text of the
report, which is written by an export and read by a collection, and so a report that was
exported is collected again (`collect_repeats_export`).
-/

namespace Triage

set_option autoImplicit false

variable {Number : Type}

/-! ## Diagnostics as records -/

/-- A diagnostic with the fields that plain records give it, and with a file that is shown
as it is. -/
structure Diagnostic.IsSettled (root : Place) (diagnostic : Diagnostic) : Prop where
  code : ∃ number, diagnostic.code = .int number
  message : ∃ content, diagnostic.message = .text content
  file : ∃ file, diagnostic.file = .text file ∧ file ≠ "" ∧ projectFile root file = file
  line : ∃ number, diagnostic.line = .int number
  column : ∃ number, diagnostic.column = .int number

/-- The record of a diagnostic: its fields as they are, and the word for its severity. -/
def Diagnostic.toRaw (diagnostic : Diagnostic) : RawDiagnostic where
  message := diagnostic.message
  code := diagnostic.code
  file := diagnostic.file
  line := diagnostic.line
  column := diagnostic.column
  severity := .text diagnostic.severity.word

/-- The word for a severity stands for it. -/
theorem severityOf_word (severity : Severity) : severityOf severity.word = severity := by
  cases severity <;> decide

namespace Diagnostic.IsSettled

variable {root : Place} {diagnostic : Diagnostic} (settled : diagnostic.IsSettled root)
include settled

/-- The record of a diagnostic is complete. -/
theorem isComplete_toRaw : diagnostic.toRaw.isComplete = true := by
  obtain ⟨⟨code, coded⟩, _, ⟨file, named, filled, _⟩, ⟨line, placed⟩, ⟨column, ranged⟩⟩ := settled
  simp [RawDiagnostic.isComplete, toRaw, coded, named, placed, ranged, Value.isTruthy,
    Value.isNull, filled]

/-- **A diagnostic is converted to itself** when it has the category of what it shows. -/
theorem convert_toRaw {profile : Profile} {subsystems : List (Subsystem Number)}
    (classified : classify ⟨diagnostic.code, diagnostic.message, diagnostic.file, profile,
      subsystems⟩ = .ok diagnostic.category) :
    diagnostic.toRaw.convert root profile subsystems = .ok diagnostic := by
  rw [RawDiagnostic.convert_of_isComplete settled.isComplete_toRaw]
  obtain ⟨_, _, ⟨file, named, _, shown⟩, _, _⟩ := settled
  have fileRead : diagnostic.toRaw.file.toText = .ok file := by
    rw [toRaw, named]
    rfl
  refine bind_eq_ok.2 ⟨file, fileRead, bind_eq_ok.2 ⟨diagnostic.severity.word, rfl, ?_⟩⟩
  refine bind_eq_ok.2 ⟨diagnostic.category, ?_, ?_⟩
  · rw [shown, ← named]
    exact classified
  · rw [shown, ← named, severityOf_word]
    rfl

end Diagnostic.IsSettled

/-- A diagnostic shows the fields of a record. -/
structure PlainRecord.IsShownAs (root : Place) (record : PlainRecord) (diagnostic : Diagnostic) :
    Prop where
  code : ∃ number, record.code = some number ∧ diagnostic.code = .int number
  message : diagnostic.message = .text record.message
  file : ∃ file, record.file = some file ∧ file ≠ "" ∧
    diagnostic.file = .text (projectFile root file)
  line : ∃ number, record.line = some number ∧ diagnostic.line = .int number
  column : ∃ number, record.column = some number ∧ diagnostic.column = .int number

/-- Every diagnostic of a report shows one of its records. -/
theorem exists_isShownAs {disk : Disk} {tree : SourceTree} {profile : Profile}
    {options : Options Number} {records : List PlainRecord} {report : CollectionReport}
    (collected : collectRecords disk tree profile options (records.map PlainRecord.toRaw) =
      .ok report) {diagnostic : Diagnostic} (member : diagnostic ∈ report.diagnostics) :
    ∃ record ∈ records, record.IsShownAs tree.root diagnostic := by
  obtain ⟨converted, images, rfl⟩ := collectRecords_eq_ok_iff.1 collected
  have kept := (List.mem_filter.1 (mem_of_mem_keepLimited member)).1
  obtain ⟨raw, listed, here⟩ := exists_of_mem_mapM images kept
  obtain ⟨given, complete⟩ := List.mem_filter.1 listed
  obtain ⟨record, among, rfl⟩ := List.mem_map.1 given
  rw [PlainRecord.isComplete_toRaw] at complete
  obtain ⟨file, line, column, code, named, filled, placed, ranged, coded⟩ :=
    PlainRecord.exists_of_isComplete complete
  rw [PlainRecord.convert_toRaw named filled placed ranged coded] at here
  obtain ⟨category, _, made⟩ := bind_eq_ok.1 here
  rw [← Except.ok.inj made]
  exact ⟨record, among, ⟨code, coded, rfl⟩, rfl, ⟨file, named, filled, rfl⟩, ⟨line, placed, rfl⟩,
    ⟨column, ranged, rfl⟩⟩

/-- Records that can be written and read back: the file has no backslashes, and the numbers
have numerals. -/
structure PlainRecord.IsPortable (record : PlainRecord) : Prop where
  file : ∀ file ∈ record.file, '\\' ∉ file.toList
  line : ∀ number ∈ record.line, Decimal.hasNumeral number = true
  column : ∀ number ∈ record.column, Decimal.hasNumeral number = true
  code : ∀ number ∈ record.code, Decimal.hasNumeral number = true

namespace PlainRecord.IsPortable

variable {root : Place} {record : PlainRecord} {diagnostic : Diagnostic}
  (portable : record.IsPortable) (shown : record.IsShownAs root diagnostic)
include portable shown

/-- What shows a portable record is settled. -/
theorem isSettled : diagnostic.IsSettled root := by
  obtain ⟨⟨code, _, coded⟩, message, ⟨file, given, filled, named⟩, ⟨line, _, placed⟩,
    ⟨column, _, ranged⟩⟩ := shown
  have plain := portable.file file given
  exact ⟨⟨code, coded⟩, ⟨record.message, message⟩, ⟨projectFile root file, named,
    projectFile_ne_empty root plain filled, projectFile_projectFile root plain⟩,
    ⟨line, placed⟩, ⟨column, ranged⟩⟩

/-- What shows a portable record has a text. -/
theorem hasText_toValue : diagnostic.toValue.hasText = true := by
  obtain ⟨⟨code, numbered, coded⟩, message, ⟨file, given, filled, named⟩, ⟨line, lined, placed⟩,
    ⟨column, spaced, ranged⟩⟩ := shown
  rw [Diagnostic.toValue, coded, message, named, placed, ranged, Value.hasText_table]
  simp [Value.hasText, portable.code code numbered, portable.line line lined,
    portable.column column spaced]

end PlainRecord.IsPortable

/-! ## Collecting a second time -/

/-- A report shows the diagnostics of another one, and nothing was left out of it. -/
structure CollectionReport.Repeats (again report : CollectionReport) : Prop where
  diagnostics : again.diagnostics = report.diagnostics
  totalRaw : again.totalRaw = report.diagnostics.length
  skipped : again.skipped = 0
  truncated : again.truncated = 0
  excluded : again.excludedDependencies = 0

/-- **The diagnostics of a report are collected again** on any disk, when the settings are the
same. -/
theorem collectRecords_again {disk : Disk} (later : Disk) {tree : SourceTree} {profile : Profile}
    {options : Options Number} {limit : Int} {records : List RawDiagnostic}
    {report : CollectionReport} (limited : options.maxDiagnostics = some limit)
    (nonneg : 0 ≤ limit)
    (collected : collectRecords disk tree profile options records = .ok report)
    (settled : ∀ diagnostic ∈ report.diagnostics, diagnostic.IsSettled tree.root) :
    ∃ again, collectRecords later tree profile options
      (report.diagnostics.map Diagnostic.toRaw) = .ok again ∧ again.Repeats report := by
  have complete : (report.diagnostics.map Diagnostic.toRaw).filter RawDiagnostic.isComplete =
      report.diagnostics.map Diagnostic.toRaw := by
    refine List.filter_eq_self.2 fun raw member => ?_
    obtain ⟨diagnostic, listed, rfl⟩ := List.mem_map.1 member
    exact (settled diagnostic listed).isComplete_toRaw
  have images : ((report.diagnostics.map Diagnostic.toRaw).mapM fun raw =>
      raw.convert tree.root profile options.subsystems) = .ok report.diagnostics := by
    rw [mapM_eq_ok_iff, List.forall₂_map_left_iff, List.forall₂_same]
    exact fun diagnostic member => (settled diagnostic member).convert_toRaw
      (classify_of_mem_collectRecords collected member)
  obtain ⟨converted, _, made⟩ := collectRecords_eq_ok_iff.1 collected
  have shown : report.diagnostics = (converted.filter options.keeps).take limit.toNat := by
    rw [made, reportOf, limited, keepLimited_of_nonneg nonneg]
  have kept : ∀ diagnostic ∈ report.diagnostics, options.keeps diagnostic = true := by
    intro diagnostic member
    rw [shown] at member
    exact (List.mem_filter.1 (List.mem_of_mem_take member)).2
  have whole : keepLimited options.maxDiagnostics report.diagnostics = report.diagnostics := by
    have few : report.diagnostics.length ≤ limit.toNat := by
      rw [shown]
      exact List.length_take_le _ _
    rw [limited, keepLimited_of_nonneg nonneg, List.take_of_length_le few]
  refine ⟨_, collectRecords_eq_ok_iff.2 ⟨_, complete ▸ images, rfl⟩, ?_⟩
  have filtered := List.filter_eq_self.2 kept
  constructor
  · rw [reportOf, filtered, whole]
  · rw [reportOf, List.length_map]
  · refine List.countP_eq_zero.2 fun raw member => ?_
    simp [List.filter_eq_self.1 complete raw member]
  · rw [reportOf, filtered, whole, Nat.sub_self]
  · refine List.countP_eq_zero.2 fun diagnostic member => ?_
    simp [kept diagnostic member]

/-! ## Reading an exported report -/

/-- The table of a settled diagnostic is read back as it is. -/
theorem Diagnostic.IsSettled.readBack_toValue {root : Place} {diagnostic : Diagnostic}
    (settled : diagnostic.IsSettled root) :
    Json.readBack diagnostic.toValue = diagnostic.toValue := by
  obtain ⟨⟨code, coded⟩, ⟨message, said⟩, ⟨file, named, _⟩, ⟨line, placed⟩, ⟨column, ranged⟩⟩ :=
    settled
  simp [Diagnostic.toValue, coded, said, named, placed, ranged, Json.readBack,
    Json.readBackFields, OrderedMap.insertInto]

/-- The table of a settled diagnostic is as deep as a table of numbers and texts. -/
theorem Diagnostic.IsSettled.fits_toValue {root : Place} {diagnostic : Diagnostic}
    (settled : diagnostic.IsSettled root) {room : Nat} (inside : room ≠ 0) :
    Json.fits room diagnostic.toValue = true := by
  obtain ⟨⟨code, coded⟩, ⟨message, said⟩, ⟨file, named, _⟩, ⟨line, placed⟩, ⟨column, ranged⟩⟩ :=
    settled
  simp [Diagnostic.toValue, coded, said, named, placed, ranged, Json.fits, Json.fieldsFit, inside]

/-- The record of a settled diagnostic is read from its table. -/
theorem Diagnostic.IsSettled.ofValue_toValue {root : Place} {diagnostic : Diagnostic}
    (settled : diagnostic.IsSettled root) :
    RawDiagnostic.ofValue diagnostic.toValue = .ok diagnostic.toRaw := by
  obtain ⟨⟨code, coded⟩, ⟨message, said⟩, ⟨file, named, _⟩, ⟨line, placed⟩, ⟨column, ranged⟩⟩ :=
    settled
  simp [Diagnostic.toValue, Diagnostic.toRaw, coded, said, named, placed, ranged,
    RawDiagnostic.ofValue, RawDiagnostic.ofFields, RawDiagnostic.numberField,
    RawDiagnostic.textField, OrderedMap.findIn, Value.toInt, Value.display]
  rfl

/-- What an export of a report writes: its fields in their order, and the metadata last. -/
def CollectionReport.document (report : CollectionReport) (observedAt : String) : Value :=
  .table
    [("project_root", .text report.projectRoot.text), ("summary", report.summary),
      ("domain_feature_health", report.features),
      ("unreadable_files", textList report.unreadableFiles),
      ("diagnostics", .list (report.diagnostics.map Diagnostic.toValue)),
      ("metadata", metadata Engine.collector.word observedAt)]

theorem text_toExport (report : CollectionReport) (observedAt : String) (path : Path) :
    (report.toExport observedAt path).text = Json.wide (report.document observedAt) := rfl

theorem hasText_of_checkShown {value : Value} (shown : value.checkShown = .ok ()) :
    value.hasText = true := by
  unfold Value.checkShown at shown
  split at shown
  · assumption
  · cases shown

/-- A report that passes the check of its export has a text. -/
theorem hasText_document {report : CollectionReport} {observedAt : String} {path : Path}
    (checked : (report.toExport observedAt path).check = .ok ()) :
    (report.document observedAt).hasText = true := by
  obtain ⟨_, _, shown⟩ := bind_eq_ok.1 checked
  have written : report.toValue.hasText = true := hasText_of_checkShown shown
  have described : (metadata Engine.collector.word observedAt).hasText = true := rfl
  rw [CollectionReport.toValue, Value.hasText_table] at written
  simp only [List.all_cons, List.all_nil, Bool.and_true] at written
  rw [CollectionReport.document, Value.hasText_table]
  simp only [List.all_cons, List.all_nil, Bool.and_true, described]
  exact written

section

variable {root : Place} {report : CollectionReport}
  (settled : ∀ diagnostic ∈ report.diagnostics, diagnostic.IsSettled root)
  (observedAt : String)
include settled

/-- A report of settled diagnostics is not too deep to be read. -/
theorem fits_document : Json.fits Json.deepest (report.document observedAt) = true := by
  have summarized : Json.fits 989 report.summary = true := rfl
  have described : Json.fits 989 (metadata Engine.collector.word observedAt) = true := rfl
  have featured : Json.fits 989 report.features = true := by
    simp [CollectionReport.features, entryTable, Json.fits, Json.fieldsFit_eq_all]
  have unread : Json.fits 989 (textList report.unreadableFiles) = true := by
    simp [textList, Json.fits, Json.itemsFit_eq_all]
  have listed : Json.fits 989 (.list (report.diagnostics.map Diagnostic.toValue)) = true := by
    simp only [Json.fits, Json.itemsFit_eq_all, List.all_map, Bool.and_eq_true, List.all_eq_true]
    exact ⟨rfl, fun diagnostic member => (settled diagnostic member).fits_toValue (by decide)⟩
  have named : Json.fits 989 (.text report.projectRoot.text) = true := rfl
  rw [CollectionReport.document, Json.fits, Json.fieldsFit_eq_all]
  simp [Json.deepest, named, summarized, described, featured, unread, listed]

/-- The diagnostics of a report are read back as they are. -/
theorem findIn_readBack_document : ∃ fields,
    Json.readBack (report.document observedAt) = .table fields ∧
      OrderedMap.findIn "diagnostics" fields =
        some (.list (report.diagnostics.map Diagnostic.toValue)) := by
  have each : Json.readBackItems (report.diagnostics.map Diagnostic.toValue) =
      report.diagnostics.map Diagnostic.toValue := by
    rw [Json.readBackItems_eq_map, List.map_map]
    exact List.map_congr_left fun diagnostic member => (settled diagnostic member).readBack_toValue
  refine ⟨_, rfl, ?_⟩
  simp [Json.readBackFields, Json.readBack, OrderedMap.insertInto, OrderedMap.findIn, each]

/-- **The records of an exported report** are those of its diagnostics. -/
theorem recordsOfJson_toExport {path : Path}
    (checked : (report.toExport observedAt path).check = .ok ()) :
    recordsOfJson (report.toExport observedAt path).text =
      .ok (report.diagnostics.map Diagnostic.toRaw) := by
  obtain ⟨fields, read, found⟩ := findIn_readBack_document settled observedAt
  have images : (report.diagnostics.map Diagnostic.toValue).mapM RawDiagnostic.ofValue =
      .ok (report.diagnostics.map Diagnostic.toRaw) := by
    rw [mapM_eq_ok_iff, List.forall₂_map_left_iff, List.forall₂_map_right_iff, List.forall₂_same]
    exact fun diagnostic member => (settled diagnostic member).ofValue_toValue
  unfold recordsOfJson
  rw [text_toExport, Json.read_wide (hasText_document checked) (fits_document settled observedAt),
    read]
  simp only [found, Option.getD_some, images]

end

/-! ## Exporting -/

/-- The keys of a map that was filled are those that it had, and those it was filled with. -/
theorem OrderedMap.mem_keys_foldl {Key Entry : Type} [BEq Key] [EquivBEq Key]
    {pairs : List (Key × Entry)} {table : OrderedMap Key Entry} {key : Key}
    (member : key ∈ (pairs.foldl (fun table pair => table.insert pair.1 pair.2) table).keys) :
    key ∈ table.keys ∨ ∃ pair ∈ pairs, pair.1 = key := by
  induction pairs generalizing table with
  | nil => exact .inl member
  | cons first rest ih =>
      rcases ih member with before | ⟨pair, among, same⟩
      · rw [OrderedMap.keys_insert] at before
        split at before
        · exact .inl before
        · rcases List.mem_append.1 before with old | new
          · exact .inl old
          · exact .inr ⟨first, List.mem_cons_self, (List.mem_singleton.1 new).symm⟩
      · exact .inr ⟨pair, List.mem_cons_of_mem _ among, same⟩

/-- The features of a report are named by its subsystems. -/
theorem exists_of_mem_keys_featureHealth {disk : Disk} {tree : SourceTree}
    {subsystems : List (Subsystem Number)} {name : Value}
    (member : name ∈ (featureHealth disk tree subsystems).keys) :
    ∃ subsystem ∈ subsystems, subsystem.name = name := by
  rw [featureHealth_eq] at member
  rcases OrderedMap.mem_keys_foldl member with none | ⟨pair, among, same⟩
  · cases none
  · obtain ⟨subsystem, listed, rfl⟩ := List.mem_map.1 among
    exact ⟨subsystem, listed, same⟩

theorem hasText_countValue {count : Nat} (short : Decimal.hasNumeral count = true) :
    (countValue count).hasText = true := short

/-- The counts of a report that no other count bounds have numerals. -/
structure CollectionReport.IsCountable (report : CollectionReport) : Prop where
  totalRaw : Decimal.hasNumeral report.totalRaw = true
  sourceFileCount : Decimal.hasNumeral report.sourceFileCount = true
  unreadable : Decimal.hasNumeral report.unreadableFiles.length = true

theorem hasText_summary {root : Place} {profile : Profile} {options : Options Number} {limit : Int}
    {records : List PlainRecord} {report : CollectionReport}
    (accounts : AccountsFor root profile options limit records report)
    (countable : report.IsCountable) : report.summary.hasText = true := by
  have total := accounts.total
  have bounded {count : Nat} (le : count ≤ report.totalRaw) : (countValue count).hasText = true :=
    hasText_countValue (hasNumeral_of_natAbs_le (by simpa using le) countable.totalRaw)
  rw [CollectionReport.summary, Value.hasText_table]
  simp only [List.all_cons, List.all_nil, Bool.and_true, Bool.and_eq_true]
  exact ⟨bounded (by omega), bounded (by omega), bounded (by omega), bounded (by omega),
    bounded (by omega), hasText_countValue countable.sourceFileCount,
    hasText_countValue countable.unreadable⟩

section

variable {disk : Disk} {tree : SourceTree} {profile : Profile} {options : Options Number}
  {limit : Int} {records : List PlainRecord} {report : CollectionReport}

/-- **A report of portable records passes the check of its export.** -/
theorem check_toExport (limited : options.maxDiagnostics = some limit) (nonneg : 0 ≤ limit)
    (textual : options.Textual) (portable : ∀ record ∈ records, record.IsPortable)
    (countable : report.IsCountable)
    (collected : collectRecords disk tree profile options (records.map PlainRecord.toRaw) =
      .ok report) (observedAt : String) (path : Path) :
    (report.toExport observedAt path).check = .ok () := by
  have accounts := accountsFor_of_collectRecords limited nonneg collected
  have named : report.featureHealth.keys.forM Value.checkEntryName = .ok () := by
    obtain ⟨converted, _, rfl⟩ := collectRecords_eq_ok_iff.1 collected
    refine forM_eq_ok_iff.2 fun name member => ?_
    obtain ⟨subsystem, listed, rfl⟩ := exists_of_mem_keys_featureHealth member
    obtain ⟨content, written⟩ := (textual subsystem listed).name
    rw [written]
    exact Value.checkShown_text content
  have shown : (Value.list (report.diagnostics.map Diagnostic.toValue)).hasText = true := by
    rw [Value.hasText_list, List.all_map, List.all_eq_true]
    intro diagnostic member
    obtain ⟨record, among, shows⟩ := exists_isShownAs collected member
    exact (portable record among).hasText_toValue shows
  have featured : report.features.hasText = true := by
    simp [CollectionReport.features, entryTable, Value.hasText_table, Value.hasText]
  have unread : (textList report.unreadableFiles).hasText = true := by
    simp [textList, Value.hasText_list, Value.hasText]
  have rooted : (Value.text report.projectRoot.text).hasText = true := rfl
  have body : report.toValue.hasText = true := by
    rw [CollectionReport.toValue, Value.hasText_table]
    simp only [List.all_cons, List.all_nil, rooted, hasText_summary accounts countable, featured,
      unread, shown, Bool.and_self]
  exact bind_eq_ok.2 ⟨(), named, if_pos body⟩

/-- **A collection reads the records of a report from its export.** -/
theorem recordsOfFile_of_write (portable : ∀ record ∈ records, record.IsPortable)
    (collected : collectRecords disk tree profile options (records.map PlainRecord.toRaw) =
      .ok report) {observedAt : String} {path : Path} {directory : Place} {written : Disk}
    {attention : Attention} {notes : List Note}
    (wrote : (((report.toExport observedAt path).write disk directory).outcome attention
      notes).1 = .ok written) :
    recordsOfFile written path directory = .ok (report.diagnostics.map Diagnostic.toRaw) := by
  have settled : ∀ diagnostic ∈ report.diagnostics, diagnostic.IsSettled tree.root := by
    intro diagnostic member
    obtain ⟨record, among, shown⟩ := exists_isShownAs collected member
    exact (portable record among).isSettled shown
  obtain ⟨_, _, checked, _⟩ := Export.steps_of_write wrote
  obtain ⟨isFile, read⟩ := Export.readText_of_write wrote
  rw [text_toExport, Json.unifyLineEnds_wide (fits_document settled observedAt),
    String.ofList_toList, ← text_toExport report observedAt path] at read
  refine bind_eq_ok.2 ⟨true, isFile, bind_eq_ok.2 ⟨_, read, ?_⟩⟩
  exact recordsOfJson_toExport settled observedAt checked

end

/-- What a collection from a file answers under a limit. -/
def collectFile (disk : Disk) (tree : SourceTree) (profile : Profile) (options : Options Number)
    (attention : Attention) (limit : Int) (path : Path) (directory : Place) :
    Except Failure CollectionReport :=
  ((collect disk tree profile { options with maxDiagnostics := some limit }
    (.file path directory)).perform attention).1

/-- A report that is returned is the report of the records of the file. -/
theorem collectRecords_of_collectFile {disk : Disk} {tree : SourceTree} {profile : Profile}
    {options : Options Number} {attention : Attention} {limit : Int} {path : Path}
    {directory : Place} {report : CollectionReport}
    (returned : collectFile disk tree profile options attention limit path directory =
      .ok report) :
    ∃ records, recordsOfFile disk path directory = .ok records ∧
      collectRecords disk tree profile { options with maxDiagnostics := some limit } records =
        .ok report := by
  rw [collectFile, Run.perform_fst] at returned
  exact collectRecords_of_collect returned

/-- The disk that the export of a report leaves. -/
def exportReport (disk : Disk) (report : CollectionReport) (attention : Attention)
    (observedAt : String) (path : Path) (directory : Place) : Except Failure Disk :=
  (((report.toExport observedAt path).write disk directory).perform attention).1

/-- **A report that was exported is collected again.** Let a report be collected of portable
records under a limit that is not negative.  It is exported when its counts have numerals and
its file can be written.  A collection from that file, of the same project and under the same
settings, shows the diagnostics of the report in their order, and leaves nothing out; and it
returns when the settings are textual and the root of the project can be reached. -/
theorem collect_repeats_export (disk : Disk) (tree : SourceTree) (profile : Profile)
    (options : Options Number) (attention : Attention) (limit : Int) (nonneg : 0 ≤ limit)
    (records : List PlainRecord) (portable : ∀ record ∈ records, record.IsPortable)
    (report : CollectionReport)
    (collected : collectPlain disk tree profile options attention limit records = .ok report)
    (observedAt : String) (path : Path) (directory : Place) :
    (options.Textual → report.IsCountable →
      Decided (disk.writeText ((Path.ofPlace directory).join path)
        (report.toExport observedAt path).text) →
      Decided (exportReport disk report attention observedAt path directory)) ∧
    ∀ written, exportReport disk report attention observedAt path directory = .ok written →
      (options.Textual → tree.excludeFault = none →
        disk.locate (Path.ofPlace tree.root) = .ok tree.root →
        Decided (collectFile written tree profile options attention limit path directory)) ∧
      ∀ again, collectFile written tree profile options attention limit path directory =
        .ok again → again.Repeats report := by
  have sorted := collectRecords_of_collectPlain collected
  have limited : ({ options with maxDiagnostics := some limit } : Options Number).maxDiagnostics =
      some limit := rfl
  refine ⟨fun textual countable writable => ?_, fun written wrote => ?_⟩
  · have checked := check_toExport limited nonneg textual portable countable sorted observedAt path
    obtain ⟨written, returns⟩ := Export.returns_write checked writable
    exact ⟨written, returns.perform⟩
  · have settled : ∀ diagnostic ∈ report.diagnostics, diagnostic.IsSettled tree.root := by
      intro diagnostic member
      obtain ⟨record, among, shown⟩ := exists_isShownAs sorted member
      exact (portable record among).isSettled shown
    have read := recordsOfFile_of_write portable sorted wrote
    obtain ⟨repeated, found, repeats⟩ := collectRecords_again written limited nonneg sorted settled
    refine ⟨fun textual spared reached => ?_, fun again returned => ?_⟩
    · have there := Disk.locate_of_keeps (Export.keepsDirectories_of_write wrote) reached
      have listed := SourceTree.decided_files? spared (Disk.decided_isFile?_of_locate there)
      have returns : (collect written tree profile _ (.file path directory)).Returns attention
          (.ok repeated) :=
        returns_collect (read ▸ Run.returns_lift _) found listed textual
      exact ⟨repeated, returns.perform⟩
    · obtain ⟨readRecords, same, reported⟩ := collectRecords_of_collectFile returned
      obtain rfl : report.diagnostics.map Diagnostic.toRaw = readRecords :=
        Except.ok.inj (read.symm.trans same)
      obtain rfl : repeated = again := Except.ok.inj (found.symm.trans reported)
      exact repeats

/-- A record with a path that leads into the project, and one that lacks everything. -/
def exportedRecords : List PlainRecord :=
  [⟨"Cannot find name 'x'.", "Warning", some "//src/./a.ts", some 1, some (-2), some 2304⟩,
    ⟨"m", "error", none, none, none, none⟩]

/-- The source tree of a project at the root of the disk, from which built files are left
out. -/
def exportedTree : SourceTree := .openAt [] [] (.list (textValues ["dist"]))

theorem collect_repeats_export_of_exportedRecords :
    ∃ report written again,
      collectPlain .empty exportedTree {} ({} : Options Rat) .nothing 5 exportedRecords =
        .ok report ∧ report.diagnostics.length = 1 ∧
      exportReport .empty report .nothing "now" ⟨0, ["out", "r.json"]⟩ [] = .ok written ∧
      collectFile written exportedTree {} ({} : Options Rat) .nothing 5 ⟨0, ["out", "r.json"]⟩ [] =
        .ok again ∧ again.Repeats report := by
  have small : ∀ number ∈ [1, -2, (2304 : Int)], Decimal.hasNumeral number = true :=
    fun number member => hasNumeral_of_small (by revert number; decide)
  have portable : ∀ record ∈ exportedRecords, record.IsPortable := by
    simp only [exportedRecords, List.forall_mem_cons, List.not_mem_nil, false_implies,
      implies_true, and_true]
    refine ⟨⟨?_, ?_, ?_, ?_⟩, nofun, nofun, nofun, nofun⟩
    · rintro file ⟨⟩
      decide
    · rintro line ⟨⟩
      exact small 1 (by simp)
    · rintro column ⟨⟩
      exact small (-2) (by simp)
    · rintro code ⟨⟩
      exact small 2304 (by simp)
  have textual : ({} : Options Rat).Textual := fun _ member => nomatch member
  have spared : exportedTree.excludeFault = none := SourceTree.excludeFault_openAt [] [] ["dist"]
  obtain ⟨report, collected⟩ : Decided (collectPlain .empty exportedTree {} ({} : Options Rat)
      .nothing 5 exportedRecords) :=
    decided_collectPlain Profile.textual_standard textual
      (SourceTree.decided_files? spared ⟨false, rfl⟩) .nothing 5 exportedRecords
  have repeats := collect_repeats_export .empty exportedTree {} ({} : Options Rat) .nothing 5
    (by decide) exportedRecords portable report collected "now" ⟨0, ["out", "r.json"]⟩ []
  have sorted := collectRecords_of_collectPlain collected
  have counts : report.totalRaw = 2 ∧ report.sourceFileCount = 0 ∧
      report.unreadableFiles.length = 0 := by
    have none : exportedTree.files .empty = [] := List.mergeSort_nil
    obtain ⟨converted, _, rfl⟩ := collectRecords_eq_ok_iff.1 sorted
    exact ⟨rfl, congrArg List.length none, rfl⟩
  have countable : report.IsCountable := by
    refine ⟨?_, ?_, ?_⟩
    · rw [counts.1]
      exact hasNumeral_of_small (by decide)
    · rw [counts.2.1]
      exact hasNumeral_of_small (by decide)
    · rw [counts.2.2]
      exact hasNumeral_of_small (by decide)
  obtain ⟨written, exported⟩ := repeats.1 textual countable ⟨_, rfl⟩
  obtain ⟨returns, all⟩ := repeats.2 written exported
  obtain ⟨again, returned⟩ := returns textual spared rfl
  have single : report.diagnostics.length = 1 := by
    obtain ⟨_, images, shown⟩ := (accountsFor_of_collectRecords rfl (by decide) sorted).diagnostics
    have wanted : (exportedRecords.filter (PlainRecord.isWanted [] ({} : Options Rat))).length =
        1 := by decide +kernel
    rw [shown, List.length_take, ← (mapM_eq_ok_iff.1 images).length_eq]
    exact congrArg (min 5) wanted
  exact ⟨report, written, again, collected, single, exported, returned, all again returned⟩

end Triage
