import Triage.Proofs.Collection.Collecting

/-!
# Records that are read

A record from a file or from the compiler has a text for its message, and its code is a whole
number or missing (`isTyped_of_read`); only records that are given can be of other kinds.
A diagnostic shows its file as a text whatever its record has, so what a collection returns is
textual (`textual_of_collect`).

Reading settles (`settles_read`): which records are read does not depend on what was noted
before.
-/

namespace Triage

set_option autoImplicit false

variable {Number : Type} {attention : Attention} {notes : List Note}

/-! ## Records of the right kinds -/

/-- A record has a text for its message and a whole number for its code, if it has a code. -/
structure RawDiagnostic.IsTyped (raw : RawDiagnostic) : Prop where
  message : raw.message.IsText
  code : raw.code = .null ∨ ∃ number, raw.code = .int number

/-- Records are read, from the compiler or from a file, and not given. -/
def DiagnosticSource.IsRead : DiagnosticSource → Prop
  | .records _ => False
  | .file _ _ | .compiler _ => True

/-- Records that are given are of the right kinds. -/
def DiagnosticSource.IsTyped : DiagnosticSource → Prop
  | .records given => ∀ raw ∈ given, raw.IsTyped
  | .file _ _ | .compiler _ => True

theorem DiagnosticSource.IsRead.isTyped {source : DiagnosticSource} (isRead : source.IsRead) :
    source.IsTyped := by
  cases source with
  | records given => exact isRead.elim
  | _ => trivial

theorem null_or_int_of_numberField {fields : List (String × Value)} {key : String} {value : Value}
    (found : RawDiagnostic.numberField fields key = .ok value) :
    value = .null ∨ ∃ number, value = .int number := by
  unfold RawDiagnostic.numberField at found
  split at found
  · exact .inl (Except.ok.inj found).symm
  · split at found
    · exact .inr ⟨_, (Except.ok.inj found).symm⟩
    · cases found
    · exact .inl (Except.ok.inj found).symm

theorem isTyped_of_ofValue {item : Value} {raw : RawDiagnostic}
    (made : RawDiagnostic.ofValue item = .ok raw) : raw.IsTyped := by
  cases item with
  | table fields =>
      obtain ⟨code, numbered, further⟩ := bind_eq_ok.1 made
      obtain ⟨line, _, further⟩ := bind_eq_ok.1 further
      obtain ⟨column, _, further⟩ := bind_eq_ok.1 further
      rw [← Except.ok.inj further]
      exact ⟨Value.isText_text _, null_or_int_of_numberField numbered⟩
  | _ =>
      rw [← Except.ok.inj made]
      exact ⟨Value.isText_text _, .inl rfl⟩

theorem isTyped_of_recordsOfJson {text : String} {records : List RawDiagnostic}
    (read : recordsOfJson text = .ok records) : ∀ raw ∈ records, raw.IsTyped := by
  unfold recordsOfJson at read
  split at read
  · split at read <;> cases read
  · simp only at read
    split at read
    · intro raw member
      obtain ⟨item, _, made⟩ := exists_of_mem_mapM read member
      exact isTyped_of_ofValue made
    · cases read

theorem isTyped_of_recordsOfRun {status : Int} {output complaint : String}
    {records : List RawDiagnostic} (read : recordsOfRun status output complaint = .ok records) :
    ∀ raw ∈ records, raw.IsTyped := by
  obtain ⟨parsed, _, further⟩ := bind_eq_ok.1 read
  simp only at further
  split at further
  · cases further
  · intro raw member
    rw [← Except.ok.inj further] at member
    obtain ⟨record, _, rfl⟩ := List.mem_map.1 member
    unfold CompilerOutput.Record.toRaw
    cases record.location <;> exact ⟨Value.isText_text _, .inr ⟨record.code, rfl⟩⟩

theorem isTyped_of_records {invocation : Invocation} {seconds : Int} {outcome : Outcome}
    {records : List RawDiagnostic} (read : outcome.records invocation seconds = .ok records) :
    ∀ raw ∈ records, raw.IsTyped := by
  cases outcome with
  | finished status output complaint =>
      obtain ⟨output, _, further⟩ := bind_eq_ok.1 read
      obtain ⟨complaint, _, further⟩ := bind_eq_ok.1 further
      exact isTyped_of_recordsOfRun further
  | notFound =>
      simp only [Outcome.records] at read
      split at read <;> cases read
  | _ => cases read

/-- **Records that are read are of the right kinds.** -/
theorem isTyped_of_read {source : DiagnosticSource} (isTyped : source.IsTyped) {disk : Disk}
    {root : Place} {profile : Profile} {records : List RawDiagnostic}
    (read : ((source.read disk root profile).outcome attention notes).1 = .ok records) :
    ∀ raw ∈ records, raw.IsTyped := by
  cases source with
  | records given =>
      rw [← Except.ok.inj read]
      exact isTyped
  | file path directory =>
      have found : recordsOfFile disk path directory = .ok records := read
      obtain ⟨isFile, _, further⟩ := bind_eq_ok.1 found
      simp only at further
      split at further
      · cases further
      · obtain ⟨text, _, parsed⟩ := bind_eq_ok.1 further
        exact isTyped_of_recordsOfJson parsed
  | compiler =>
      obtain ⟨invocation, noted, _, further⟩ := Run.ok_of_lift_bind read
      obtain ⟨_, noted, _, further⟩ := Run.ok_of_bind further
      obtain ⟨_, noted, _, further⟩ := Run.ok_of_lift_bind further
      exact isTyped_of_records further

/-- Which records are read does not depend on what was noted before. -/
theorem settles_read (source : DiagnosticSource) (disk : Disk) (root : Place)
    (profile : Profile) : (source.read disk root profile).Settles attention := by
  cases source with
  | records given => exact Run.settles_pure given
  | file path directory => exact Run.settles_lift _
  | compiler =>
      refine (Run.settles_lift _).bind fun invocation => ?_
      refine (Run.settles_note .info _).bind fun _ => ?_
      exact (Run.settles_lift _).bind fun _ => Run.settles_lift _

/-! ## Diagnostics of a collection -/

/-- A diagnostic shows its file as a text, whatever its record has. -/
theorem textual_of_convert {raw : RawDiagnostic} {root : Place} {profile : Profile}
    {subsystems : List (Subsystem Number)} {diagnostic : Diagnostic}
    (isText : raw.message.IsText)
    (converted : raw.convert root profile subsystems = .ok diagnostic) : diagnostic.Textual := by
  obtain ⟨_, file, _, _, _, _, _, rfl⟩ := RawDiagnostic.convert_eq_ok_iff.1 converted
  exact ⟨isText, Value.isText_text _⟩

/-- **What a collection returns is textual**, whatever the settings are. -/
theorem textual_of_collect {disk : Disk} {tree : SourceTree} {profile : Profile}
    {options : Options Number} {source : DiagnosticSource} (isRead : source.IsRead)
    {report : CollectionReport}
    (returned : ((collect disk tree profile options source).outcome attention notes).1 =
      .ok report) :
    ∀ diagnostic ∈ report.diagnostics, diagnostic.Textual := by
  obtain ⟨records, read, reported⟩ := collectRecords_of_collect returned
  obtain ⟨converted, images, rfl⟩ := collectRecords_eq_ok_iff.1 reported
  intro diagnostic member
  have kept := (List.mem_filter.1 (mem_of_mem_keepLimited member)).1
  obtain ⟨raw, among, made⟩ := exists_of_mem_mapM images kept
  have typed := isTyped_of_read isRead.isTyped read raw (List.mem_filter.1 among).1
  exact textual_of_convert typed.message made

/-- A collection that returns has listed the source files. -/
theorem decided_files?_of_collect {disk : Disk} {tree : SourceTree} {profile : Profile}
    {options : Options Number} {source : DiagnosticSource} {report : CollectionReport}
    (returned : ((collect disk tree profile options source).outcome attention notes).1 =
      .ok report) :
    Decided (tree.files? (source.diskAfter disk tree.root profile)) := by
  obtain ⟨records, noted, _, reported⟩ := Run.ok_of_bind returned
  obtain ⟨_, noted, _, further⟩ := Run.ok_of_lift_bind reported
  obtain ⟨noted, further⟩ := Run.ok_of_bind_ite further
  obtain ⟨noted, further⟩ := Run.ok_of_bind_ite further
  obtain ⟨_, noted, _, further⟩ := Run.ok_of_bind further
  obtain ⟨_, noted, listed, _⟩ := Run.ok_of_bind further
  obtain ⟨places, _, found, _⟩ := Run.ok_of_lift_bind listed
  exact ⟨places, found⟩

end Triage
