import Triage.Proofs.Collection.Accounting
import Triage.Proofs.Disk

/-!
# Elements of any kind

A file of records may hold any JSON values.  Reading one is lenient: a field that stands for no
whole number is missing, an element that is no table is a mere message, and whatever lacks
something that a diagnostic needs is skipped.  Two kinds of elements are not tolerated, and one of
them ends the whole collection (`spoils`, `one_record_ends_the_collection`): an infinite number for
a code, a line or a column is read by nobody, and a record that lacks nothing needs a file that is a
text.  Without such elements a collection from a file completes, and every element is counted once
(`collect_completes_iff_none_spoils`).

Reading is settled element by element (`mapM_ofValue`), and so is sorting
(`decided_collectRecords_iff`); what is left is the run around them.
-/

namespace Triage

set_option autoImplicit false

/-! ## Elements of a list -/

/-- The fields of a record that hold whole numbers. -/
def numberKeys : List String := ["code", "line", "column"]

/-- Whether a value is a number without an end. -/
def Value.isInfinite : Value → Bool
  | .float number =>
      match Decimal.meaning number with
      | .infinite _ => true
      | _ => false
  | _ => false

/-- Whether an element has an infinite number for its code, its line or its column. -/
def holdsInfinite : Value → Bool
  | .table fields => numberKeys.any fun key =>
      (OrderedMap.findIn key fields).any Value.isInfinite
  | _ => false

/-- The whole number that an entry stands for. -/
def numeralAt (fields : List (String × Value)) (key : String) : Option Int :=
  (OrderedMap.findIn key fields).bind fun value => value.toInt.toOption

/-- Whether an element has all that a diagnostic needs: a file that is not empty, and a code, a
line and a column that stand for whole numbers. -/
def isWhole : Value → Bool
  | .table fields => (OrderedMap.findIn "file" fields).any Value.isTruthy &&
      numberKeys.all fun key => (numeralAt fields key).isSome
  | _ => false

/-- Whether the file of an element is a text. -/
def namesFile : Value → Bool
  | .table fields =>
      match OrderedMap.findIn "file" fields with
      | some (.text _) => true
      | _ => false
  | _ => false

/-- Whether an element ends a collection: it has an infinite number, or it has all that a
diagnostic needs, but its file is no text. -/
def spoils (item : Value) : Bool := holdsInfinite item || (isWhole item && !namesFile item)

/-! ## Reading elements -/

/-- Only an infinite number fails as one. -/
theorem toInt_eq_infiniteNumber_iff {value : Value} :
    value.toInt = .error .infiniteNumber ↔ value.isInfinite = true := by
  cases value with
  | float number =>
      rw [Value.toInt, Value.isInfinite]
      cases Decimal.meaning number <;> simp
  | text content =>
      rw [Value.toInt]
      cases Decimal.readInt? content <;> simp [Value.isInfinite]
  | _ => simp [Value.toInt, Value.isInfinite]

/-- A field is read as the whole number that it stands for, unless it is infinite. -/
theorem numberField_eq (fields : List (String × Value)) (key : String) :
    RawDiagnostic.numberField fields key =
      if (OrderedMap.findIn key fields).any Value.isInfinite then .error .infiniteNumber
      else .ok (PlainRecord.numberValue (numeralAt fields key)) := by
  unfold RawDiagnostic.numberField numeralAt
  cases OrderedMap.findIn key fields with
  | none => rfl
  | some value =>
      simp only [Option.any_some, Option.bind_some]
      cases infinite : value.isInfinite with
      | true => rw [toInt_eq_infiniteNumber_iff.2 infinite]; rfl
      | false =>
          cases found : value.toInt with
          | ok number => rfl
          | error failure =>
              cases failure with
              | infiniteNumber =>
                  rw [toInt_eq_infiniteNumber_iff.1 found] at infinite
                  cases infinite
              | _ => rfl

/-- The record that is read from an element without an infinite number. -/
def recordOf : Value → RawDiagnostic
  | .table fields =>
      { message := RawDiagnostic.textField fields "message" ""
        code := PlainRecord.numberValue (numeralAt fields "code")
        file := (OrderedMap.findIn "file" fields).getD .null
        line := PlainRecord.numberValue (numeralAt fields "line")
        column := PlainRecord.numberValue (numeralAt fields "column")
        severity := RawDiagnostic.textField fields "severity" Severity.error.word }
  | other => .ofMessage other.display

theorem ofValue_eq (item : Value) :
    RawDiagnostic.ofValue item =
      if holdsInfinite item then .error .infiniteNumber else .ok (recordOf item) := by
  cases item with
  | table fields =>
      rw [RawDiagnostic.ofValue, RawDiagnostic.ofFields]
      simp only [numberField_eq, holdsInfinite, numberKeys, List.any_cons, List.any_nil]
      have either (key : String) : (OrderedMap.findIn key fields).any Value.isInfinite = true ∨
          (OrderedMap.findIn key fields).any Value.isInfinite = false :=
        Bool.eq_false_or_eq_true _
      rcases either "code" with code | code <;> rcases either "line" with line | line <;>
        rcases either "column" with column | column <;> simp only [code, line, column] <;> rfl
  | _ => rfl

/-- **Elements of a list are read** unless one of them has an infinite number. -/
theorem mapM_ofValue (items : List Value) :
    items.mapM RawDiagnostic.ofValue =
      if items.any holdsInfinite then .error .infiniteNumber else .ok (items.map recordOf) := by
  induction items with
  | nil => rfl
  | cons item rest ih =>
      rw [List.mapM_cons, ofValue_eq, ih, List.any_cons]
      cases holdsInfinite item <;> cases rest.any holdsInfinite <;> rfl

@[simp] theorem isComplete_recordOf (item : Value) :
    (recordOf item).isComplete = isWhole item := by
  cases item with
  | table fields =>
      have file : ((OrderedMap.findIn "file" fields).getD .null).isTruthy =
          (OrderedMap.findIn "file" fields).any Value.isTruthy := by
        cases OrderedMap.findIn "file" fields <;> rfl
      simp only [recordOf, RawDiagnostic.isComplete, isWhole, numberKeys, file,
        PlainRecord.isNull_numberValue, List.all_cons, List.all_nil, Bool.and_true]
      cases numeralAt fields "code" <;> cases numeralAt fields "line" <;>
        cases numeralAt fields "column" <;> simp
  | _ => rfl

/-! ## Converting elements -/

variable {Number : Type} {disk : Disk} {tree : SourceTree} {profile : Profile}
  {options : Options Number}

theorem namesFile_iff {fields : List (String × Value)} :
    namesFile (.table fields) = true ↔
      ∃ content, OrderedMap.findIn "file" fields = some (.text content) := by
  rw [namesFile]
  cases OrderedMap.findIn "file" fields with
  | none => simp
  | some file => cases file <;> simp

/-- An element that has all that a diagnostic needs becomes one when its file is a text. -/
theorem decided_convert_iff (profileTextual : profile.Textual) (textual : options.Textual)
    (root : Place) {item : Value} (whole : isWhole item = true) :
    Decided ((recordOf item).convert root profile options.subsystems) ↔ namesFile item = true := by
  rw [RawDiagnostic.convert_of_isComplete (by rw [isComplete_recordOf, whole])]
  cases item with
  | table fields =>
      rw [namesFile_iff]
      constructor
      · rintro ⟨diagnostic, made⟩
        obtain ⟨file, read, _⟩ := bind_eq_ok.1 made
        change ((OrderedMap.findIn "file" fields).getD .null).toText = .ok file at read
        cases found : OrderedMap.findIn "file" fields with
        | none => rw [found] at read; cases read
        | some value =>
            rw [found] at read
            cases value with
            | text content => exact ⟨content, rfl⟩
            | _ => cases read
      · rintro ⟨content, found⟩
        have coded : (numeralAt fields "code").isSome = true := by
          simp only [isWhole, numberKeys, List.all_cons, Bool.and_eq_true] at whole
          exact whole.2.1
        obtain ⟨code, coded⟩ := Option.isSome_iff_exists.1 coded
        simp only [recordOf, found, coded]
        exact (decided_classify profileTextual textual code _ _).bind fun _ => decided_ok _
  | _ => cases whole

/-- **Elements are sorted** unless one of them has all that a diagnostic needs and a file that is
no text. -/
theorem decided_collectRecords_iff (profileTextual : profile.Textual) (textual : options.Textual)
    (disk : Disk) (tree : SourceTree) (items : List Value) :
    Decided (collectRecords disk tree profile options (items.map recordOf)) ↔
      ∀ item ∈ items, isWhole item = true → namesFile item = true := by
  have images : Decided (collectRecords disk tree profile options (items.map recordOf)) ↔
      Decided (((items.map recordOf).filter RawDiagnostic.isComplete).mapM fun raw =>
        raw.convert tree.root profile options.subsystems) := by
    constructor
    · rintro ⟨report, collected⟩
      obtain ⟨converted, images, _⟩ := collectRecords_eq_ok_iff.1 collected
      exact ⟨converted, images⟩
    · rintro ⟨converted, images⟩
      exact ⟨_, collectRecords_eq_ok_iff.2 ⟨converted, images, rfl⟩⟩
  rw [images]
  constructor
  · rintro ⟨converted, images⟩ item member whole
    have complete : recordOf item ∈ (items.map recordOf).filter RawDiagnostic.isComplete :=
      List.mem_filter.2 ⟨List.mem_map_of_mem member, by rw [isComplete_recordOf, whole]⟩
    obtain ⟨diagnostic, _, made⟩ := exists_mem_of_mapM images complete
    exact (decided_convert_iff profileTextual textual tree.root whole).1 ⟨diagnostic, made⟩
  · intro named
    refine decided_mapM fun raw member => ?_
    obtain ⟨listed, complete⟩ := List.mem_filter.1 member
    obtain ⟨item, among, rfl⟩ := List.mem_map.1 listed
    rw [isComplete_recordOf] at complete
    exact (decided_convert_iff profileTextual textual tree.root complete).2
      (named item among complete)

/-! ## Collecting from a file -/

/-- The elements of a JSON value: those of a list, or of the list under the key `diagnostics` of a
table. -/
def elements? : Value → Option (List Value)
  | .list items => some items
  | .table fields =>
      match OrderedMap.findIn "diagnostics" fields with
      | some (.list items) => some items
      | _ => none
  | _ => none

/-- A report counts every element once. -/
structure AccountsForElements (items : List Value) (report : CollectionReport) : Prop where
  totalRaw : report.totalRaw = items.length
  total : report.totalRaw = report.diagnostics.length + report.truncated + report.skipped +
    report.excludedDependencies
  /-- Those are skipped that lack something that a diagnostic needs. -/
  skipped : report.skipped = items.countP fun item => !isWhole item

/-- A file with elements is read unless one of them has an infinite number. -/
theorem recordsOfFile_of_elements {path : Path} {directory : Place} {text : String} {value : Value}
    {items : List Value}
    (isFile : disk.isFile? ((Path.ofPlace directory).join path) = .ok true)
    (written : disk.readText ((Path.ofPlace directory).join path) = .ok text)
    (parsed : Json.read text.toList = .ok value) (listed : elements? value = some items) :
    recordsOfFile disk path directory =
      if items.any holdsInfinite then .error .infiniteNumber else .ok (items.map recordOf) := by
  have records : recordsOfJson text = items.mapM RawDiagnostic.ofValue := by
    rw [recordsOfJson, parsed]
    cases value with
    | list others => rw [Option.some.inj listed]
    | table fields =>
        rw [elements?] at listed
        cases found : OrderedMap.findIn "diagnostics" fields with
        | none => rw [found] at listed; cases listed
        | some entry =>
            rw [found] at listed
            cases entry with
            | list others => simp only [found, Option.getD_some, Option.some.inj listed]
            | _ => cases listed
    | _ => cases listed
  rw [← mapM_ofValue, ← records]
  simp only [recordsOfFile, isFile, written, bind, Except.bind]
  rfl

/-- A report that is returned is the report of the records of the elements. -/
theorem collectRecords_of_collectFile_elements {attention : Attention} {path : Path}
    {directory : Place} {items : List Value} {report : CollectionReport}
    (read : recordsOfFile disk path directory =
      if items.any holdsInfinite then .error .infiniteNumber else .ok (items.map recordOf))
    (returned : ((collect disk tree profile options (.file path directory)).perform attention).1 =
      .ok report) :
    items.any holdsInfinite = false ∧
      collectRecords disk tree profile options (items.map recordOf) = .ok report := by
  rw [Run.perform_fst] at returned
  obtain ⟨records, found, collected⟩ := collectRecords_of_collect returned
  change recordsOfFile disk path directory = .ok records at found
  rw [read] at found
  split at found
  · cases found
  · next finite =>
      rw [← Except.ok.inj found] at collected
      exact ⟨Bool.eq_false_iff.2 finite, collected⟩

/-- **A collection completes unless an element spoils it.** Under textual settings, elements of any
kind are collected from a file exactly when none of them has an infinite number, and none that has
all a diagnostic needs has a file that is no text; and every element is counted once then. -/
theorem collect_completes_iff_none_spoils (disk : Disk) (tree : SourceTree) (profile : Profile)
    (options : Options Number) (attention : Attention) (path : Path) (directory : Place)
    (text : String) (value : Value) (items : List Value) (limit : Int)
    (limited : options.maxDiagnostics = some limit) (nonneg : 0 ≤ limit)
    (profileTextual : profile.Textual) (textual : options.Textual)
    (listable : Decided (tree.files? disk))
    (isFile : disk.isFile? ((Path.ofPlace directory).join path) = .ok true)
    (written : disk.readText ((Path.ofPlace directory).join path) = .ok text)
    (parsed : Json.read text.toList = .ok value) (listed : elements? value = some items) :
    (Decided ((collect disk tree profile options (.file path directory)).perform attention).1 ↔
      ∀ item ∈ items, spoils item = false) ∧
    ∀ report,
      ((collect disk tree profile options (.file path directory)).perform attention).1 =
        .ok report → AccountsForElements items report := by
  have read := recordsOfFile_of_elements isFile written parsed listed
  have sorts := decided_collectRecords_iff profileTextual textual disk tree items
  refine ⟨⟨?_, fun tolerable => ?_⟩, fun report returned => ?_⟩
  · rintro ⟨report, returned⟩ item member
    obtain ⟨finite, collected⟩ := collectRecords_of_collectFile_elements read returned
    have named := sorts.1 ⟨report, collected⟩ item member
    rw [List.any_eq_false] at finite
    rw [spoils, Bool.or_eq_false_iff]
    refine ⟨Bool.eq_false_iff.2 (finite item member), ?_⟩
    cases whole : isWhole item with
    | false => rfl
    | true => rw [named whole]; rfl
  · have finite : items.any holdsInfinite = false := by
      refine List.any_eq_false.2 fun item member => ?_
      exact Bool.not_eq_true _ ▸ (Bool.or_eq_false_iff.1 (tolerable item member)).1
    have named : ∀ item ∈ items, isWhole item = true → namesFile item = true := by
      intro item member whole
      have spared := (Bool.or_eq_false_iff.1 (tolerable item member)).2
      simpa [whole] using spared
    obtain ⟨report, collected⟩ := sorts.2 named
    rw [finite] at read
    have returns : (collect disk tree profile options (.file path directory)).Returns attention
        (.ok report) := by
      have records : (liftM (recordsOfFile disk path directory) :
          Run (List RawDiagnostic)).Returns attention (.ok (items.map recordOf)) := by
        rw [read, if_neg Bool.false_ne_true]
        exact Run.returns_lift _
      exact returns_collect records collected listable textual
    exact ⟨report, returns.perform⟩
  · obtain ⟨_, collected⟩ := collectRecords_of_collectFile_elements read returned
    refine ⟨?_, total_of_collectRecords limited nonneg collected, ?_⟩
    · obtain ⟨converted, _, rfl⟩ := collectRecords_eq_ok_iff.1 collected
      simp [reportOf]
    · obtain ⟨converted, _, rfl⟩ := collectRecords_eq_ok_iff.1 collected
      simp [reportOf, List.countP_map, Function.comp_def]

/-- A collection from a disk that holds this text and nothing else. -/
def collectText (text : String) : Except Failure CollectionReport :=
  ((collect (Disk.empty.put ["d.json"] (.file text.toUTF8)) (.openAt [] [] (.list [])) {}
    ({} : Options Rat) (.file (Path.parse "d.json") [])).perform .nothing).1

/-- A number, and a record with all that a diagnostic needs. -/
def tolerableText : String :=
  "[5, \x7b\x22file\x22: \x22a.ts\x22, \x22line\x22: 1, \x22column\x22: 2, \x22code\x22: 2304\x7d]"

/-- The elements that a text lists. -/
def elementsOf (text : String) : List Value :=
  match Json.read (String.ofList (Text.unifyLineEnds text.toList)).toList with
  | .ok (.list items) => items
  | _ => []

theorem read_of_elementsOf {text : String} (some : elementsOf text ≠ []) :
    Json.read (String.ofList (Text.unifyLineEnds text.toList)).toList =
      .ok (.list (elementsOf text)) := by
  unfold elementsOf at some ⊢
  split at some
  · next items parsed => rw [parsed]
  · exact absurd rfl some

theorem collect_completes_on_tolerableText : ∃ report,
    collectText tolerableText = .ok report ∧ report.totalRaw = 2 ∧ report.skipped = 1 := by
  have two : (elementsOf tolerableText).length = 2 := by decide +kernel
  have tolerable : ∀ item ∈ elementsOf tolerableText, spoils item = false := by decide +kernel
  have one : ((elementsOf tolerableText).countP fun item => !isWhole item) = 1 := by
    decide +kernel
  have parsed := read_of_elementsOf (List.ne_nil_of_length_pos (two ▸ Nat.two_pos))
  have written : (Disk.empty.put ["d.json"] (.file tolerableText.toUTF8)).readText
      ((Path.ofPlace []).join (Path.parse "d.json")) =
        .ok (String.ofList (Text.unifyLineEnds tolerableText.toList)) := by
    change (Disk.decode tolerableText.toUTF8 >>= _) = _
    rw [Disk.decode_toUTF8]
    rfl
  obtain ⟨completes, accounts⟩ := collect_completes_iff_none_spoils _ (.openAt [] [] (.list [])) {}
    ({} : Options Rat) .nothing (Path.parse "d.json") [] _ _ (elementsOf tolerableText) 100 rfl
    (by decide) Profile.textual_standard nofun (SourceTree.decided_files? rfl ⟨false, rfl⟩) rfl
    written parsed rfl
  obtain ⟨report, returned⟩ := completes.2 tolerable
  obtain ⟨totalRaw, _, skipped⟩ := accounts report returned
  exact ⟨report, returned, totalRaw.trans two, skipped.trans one⟩

/-- A record whose line is larger than every number. -/
def infiniteText : String :=
  "[\x7b\x22file\x22: \x22a.ts\x22, \x22line\x22: 1e999, \x22column\x22: 1, \x22code\x22: 2304\x7d]"

/-- A record whose file is a number. -/
def numberedText : String :=
  "[\x7b\x22file\x22: 5, \x22line\x22: 1, \x22column\x22: 1, \x22code\x22: 2304\x7d]"

/-- Whether a computation fails for one of the two reasons that an element gives. -/
def failsFor (reason : Failure) : Except Failure CollectionReport → Bool
  | .ok _ => false
  | .error failure =>
      match failure, reason with
      | .infiniteNumber, .infiniteNumber => true
      | .wrongKind, .wrongKind => true
      | _, _ => false

theorem eq_error_of_failsFor {reason : Failure} {collected : Except Failure CollectionReport}
    (fails : failsFor reason collected) : collected = .error reason := by
  unfold failsFor at fails
  split at fails
  · cases fails
  · split at fails
    · rfl
    · rfl
    · cases fails

/-- One record ends a collection when its line is infinite, or when its file is a number. -/
theorem one_record_ends_the_collection :
    collectText infiniteText = .error .infiniteNumber ∧
      collectText numberedText = .error .wrongKind ∧
      ¬ Decided (collectText infiniteText) ∧ ¬ Decided (collectText numberedText) := by
  have infinite : collectText infiniteText = .error .infiniteNumber :=
    eq_error_of_failsFor (by decide +kernel)
  have numbered : collectText numberedText = .error .wrongKind :=
    eq_error_of_failsFor (by decide +kernel)
  refine ⟨infinite, numbered, ?_, ?_⟩
  · rintro ⟨report, returned⟩
    rw [infinite] at returned
    cases returned
  · rintro ⟨report, returned⟩
    rw [numbered] at returned
    cases returned

end Triage
