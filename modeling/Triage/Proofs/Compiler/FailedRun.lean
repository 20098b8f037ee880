import Triage.Collection.Collector
import Triage.Compiler.Replay
import Triage.Proofs.Collection.WrittenOutput
import Triage.Proofs.Disk
import Triage.Proofs.Run

/-!
# Compiler runs that fail

A compiler that ends with a status other than zero has failed, and the failure is told when the
run returns a record or fails as the compiler does (`TellsFailure`).  It is not always told.  What
decides is what the compiler has written (`failed_run_is_told_iff`): both streams have to be text,
no numeral in a header may be too long, and there has to be a line that starts a record or a
complaint that is not blank.  So a compiler that fails without a word looks like one that has found
nothing (`silent_failure_is_not_told`).  All this is said of an outcome, which is what a run of the
compiler comes to (`returns_runCompiler`).

The lines of the output are settled one by one.  A line is read unless a numeral of its header is
too long, and it is read as a header exactly when it starts a record (`readLine_spec`); so an output
holds records exactly when one of its lines starts one (`parse_ne_nil_iff`).
-/

namespace Triage

set_option autoImplicit false

namespace CompilerOutput

open Triage.Text

/-! ## Lines that start a record -/

/-- A line starts a record when it is not indented and has the form of a header. -/
structure StartsRecord (line : List Char) : Prop where
  visible : ∃ first rest, line = first :: rest ∧ isBlank first = false
  header : IsHeader line

/-- The numerals of a header: those of its place, if it has one, and that of its code. -/
def headerNumerals (line : List Char) : List (List Char) :=
  match readLocated? [] line with
  | some (_, row, column, announcement) => [row, column, announcement.code]
  | none => (readAnnouncement? line).toList.map Announcement.code

/-- A line is legible unless it starts a record with a numeral that is too long. -/
def Legible (line : List Char) : Prop :=
  StartsRecord line → ∀ numeral ∈ headerNumerals line, numeral.length ≤ Decimal.maxDigits

/-- Where no location is read, no position can be read behind a file. -/
theorem readPosition?_of_readLocated?_eq_none {file before rest : List Char}
    (unread : readLocated? file (before ++ rest) = none) (named : file ≠ [] ∨ before ≠ [])
    (nonempty : rest ≠ []) : readPosition? rest = none := by
  induction before generalizing file with
  | nil =>
      cases rest with
      | nil => exact absurd rfl nonempty
      | cons c rest =>
          have behind : file.isEmpty = false := by simpa using named
          rw [List.nil_append, readLocated?, behind] at unread
          cases here : readPosition? (c :: rest) with
          | none => rfl
          | some position => simp [here] at unread
  | cons c before ih =>
      rw [List.cons_append, readLocated?] at unread
      split at unread
      · cases unread
      · exact ih unread (.inl (by simp))

/-- A header is read, with a location or without one. -/
theorem exists_read_of_isHeader {line : List Char} (header : IsHeader line) :
    (∃ located, readLocated? [] line = some located) ∨
      readLocated? [] line = none ∧ ∃ announcement, readAnnouncement? line = some announcement := by
  cases unread : readLocated? [] line with
  | some located => exact .inl ⟨located, rfl⟩
  | none =>
      refine .inr ⟨rfl, ?_⟩
      rcases header with ⟨file, mark, message, named, marked, rfl⟩ | ⟨mark, message, marked, rfl⟩
      · obtain ⟨position, read⟩ := exists_readPosition?_of_isPositionMark marked message
        obtain ⟨rest, opened, _⟩ := exists_of_isPositionMark marked
        rw [List.append_assoc] at unread
        have none := readPosition?_of_readLocated?_eq_none unread (.inr named) (by simp [opened])
        rw [none] at read
        cases read
      · exact exists_readAnnouncement?_of_isSeverityMark marked message

/-! ## Reading lines -/

theorem decided_numberOf_iff {digits : List Char} :
    Decided (numberOf digits) ↔ digits.length ≤ Decimal.maxDigits := by
  unfold numberOf
  split
  · next long =>
      exact iff_of_false (fun ⟨_, found⟩ => nomatch found) (Nat.not_le.2 long)
  · next short => exact iff_of_true (decided_ok _) (Nat.not_lt.1 short)

theorem decided_locatedRecord_iff {file line column : List Char} {announcement : Announcement} :
    Decided (locatedRecord file line column announcement) ↔
      ∀ numeral ∈ [line, column, announcement.code], numeral.length ≤ Decimal.maxDigits := by
  simp only [List.forall_mem_cons, List.not_mem_nil, false_imp_iff, implies_true, and_true,
    ← decided_numberOf_iff]
  constructor
  · rintro ⟨record, read⟩
    obtain ⟨first, row, read⟩ := bind_eq_ok.1 read
    obtain ⟨second, place, read⟩ := bind_eq_ok.1 read
    obtain ⟨third, code, _⟩ := bind_eq_ok.1 read
    exact ⟨⟨first, row⟩, ⟨second, place⟩, third, code⟩
  · rintro ⟨row, place, code⟩
    exact row.bind fun _ => place.bind fun _ => code.bind fun _ => decided_ok _

/-- A header is read when no numeral in it is too long, and then as the start of a record. -/
theorem readHeader_of_isHeader {line : List Char} (header : IsHeader line) :
    (Decided (readHeader line) ↔
      ∀ numeral ∈ headerNumerals line, numeral.length ≤ Decimal.maxDigits) ∧
    ∀ read, readHeader line = .ok read → ∃ record, read = .header record := by
  unfold readHeader headerNumerals
  rcases exists_read_of_isHeader header with ⟨⟨file, row, column, announcement⟩, located⟩ |
    ⟨unlocated, announcement, announced⟩
  · rw [located]
    refine ⟨Iff.trans ⟨?_, fun decided => decided.bind fun _ => decided_ok _⟩
      decided_locatedRecord_iff, fun read found => ?_⟩
    · rintro ⟨read, found⟩
      obtain ⟨record, made, _⟩ := bind_eq_ok.1 found
      exact ⟨record, made⟩
    · obtain ⟨record, _, same⟩ := bind_eq_ok.1 found
      exact ⟨record, (Except.ok.inj same).symm⟩
  · rw [unlocated, announced]
    refine ⟨Iff.trans ⟨?_, fun decided => decided.bind fun _ => decided_ok _⟩
      (decided_numberOf_iff.trans (by simp)), fun read found => ?_⟩
    · rintro ⟨read, found⟩
      obtain ⟨code, made, _⟩ := bind_eq_ok.1 found
      exact ⟨code, made⟩
    · obtain ⟨code, _, same⟩ := bind_eq_ok.1 found
      exact ⟨_, (Except.ok.inj same).symm⟩

/-- A line that starts no record is always read, and never as the start of one. -/
theorem readLine_of_not_startsRecord {line : List Char} (other : ¬ StartsRecord line) :
    ∃ read, readLine line = .ok read ∧ ∀ record, read ≠ .header record := by
  cases line with
  | nil => exact ⟨.ignored, rfl, fun _ same => by cases same⟩
  | cons first rest =>
      cases indented : isBlank first with
      | false =>
          have unmarked : ¬ IsHeader (first :: rest) := fun header =>
            other ⟨⟨first, rest, rfl, indented⟩, header⟩
          refine ⟨.ignored, ?_, fun _ same => by cases same⟩
          rw [readLine_of_visible indented, readHeader_of_not_isHeader unmarked]
      | true =>
          rw [readLine, indented]
          split
          · exact ⟨.ignored, rfl, fun _ same => by cases same⟩
          · exact ⟨_, rfl, fun _ same => by cases same⟩

/-- **What a line is read as**: it is read when it is legible, and as a header exactly when it
starts a record. -/
theorem readLine_spec (line : List Char) :
    (Decided (readLine line) ↔ Legible line) ∧
      ∀ read, readLine line = .ok read →
        ((∃ record, read = .header record) ↔ StartsRecord line) := by
  by_cases starts : StartsRecord line
  · obtain ⟨first, rest, rfl, visible⟩ := starts.visible
    rw [readLine_of_visible visible]
    obtain ⟨decided, headed⟩ := readHeader_of_isHeader starts.header
    refine ⟨decided.trans ⟨fun short _ => short, fun legible => legible starts⟩,
      fun read found => iff_of_true (headed read found) starts⟩
  · obtain ⟨read, found, other⟩ := readLine_of_not_startsRecord starts
    refine ⟨iff_of_true ⟨read, found⟩ fun does => absurd does starts, fun also same => ?_⟩
    rw [found] at same
    rw [← Except.ok.inj same]
    exact iff_of_false (fun ⟨record, headed⟩ => other record headed) starts

/-! ## Reading the output -/

/-- There are records when there are headers. -/
theorem assemble_ne_nil_iff {read : List Line} :
    (assemble read).2 ≠ [] ↔ ∃ record, Line.header record ∈ read := by
  induction read with
  | nil => simp [assemble]
  | cons line rest ih =>
      cases line with
      | ignored => simpa [assemble] using ih
      | continuation text => simpa [assemble] using ih
      | header record => simp [assemble]

/-- The output is read when all of its lines are legible. -/
theorem decided_parse_iff {output : String} :
    Decided (parse output) ↔ ∀ line ∈ lines output.toList, Legible line := by
  constructor
  · rintro ⟨records, parsed⟩ line member
    obtain ⟨read, each, _⟩ := bind_eq_ok.1 parsed
    obtain ⟨found, _, here⟩ := exists_mem_of_mapM each member
    exact (readLine_spec line).1.1 ⟨found, here⟩
  · intro legible
    refine Decided.bind (decided_mapM fun line member => ?_) fun _ => decided_ok _
    exact (readLine_spec line).1.2 (legible line member)

/-- **What an output is read as**: there are records exactly when a line starts one. -/
theorem parse_ne_nil_iff {output : String} {records : List Record}
    (parsed : parse output = .ok records) :
    records ≠ [] ↔ ∃ line ∈ lines output.toList, StartsRecord line := by
  obtain ⟨read, each, assembled⟩ := bind_eq_ok.1 parsed
  rw [← Except.ok.inj assembled, assemble_ne_nil_iff]
  constructor
  · rintro ⟨record, member⟩
    obtain ⟨line, among, found⟩ := exists_of_mem_mapM each member
    exact ⟨line, among, ((readLine_spec line).2 _ found).1 ⟨record, rfl⟩⟩
  · rintro ⟨line, among, starts⟩
    obtain ⟨_, member, found⟩ := exists_mem_of_mapM each among
    obtain ⟨record, rfl⟩ := ((readLine_spec line).2 _ found).2 starts
    exact ⟨record, member⟩

end CompilerOutput

/-! ## Failures that are not those of the compiler -/

namespace CompilerOutput

theorem avoids_compiler_numberOf (digits : List Char) :
    Avoids Failure.compiler (numberOf digits) := by
  intro fault
  unfold numberOf
  split <;> exact fun same => nomatch same

theorem avoids_compiler_readHeader (line : List Char) :
    Avoids Failure.compiler (readHeader line) := by
  unfold readHeader
  cases readLocated? [] line with
  | some found =>
      obtain ⟨file, row, column, announcement⟩ := found
      have record : Avoids Failure.compiler (locatedRecord file row column announcement) :=
        (avoids_compiler_numberOf _).bind fun _ => (avoids_compiler_numberOf _).bind fun _ =>
          (avoids_compiler_numberOf _).bind fun _ => avoids_ok _
      exact record.bind fun _ => avoids_ok _
  | none =>
      cases readAnnouncement? line with
      | some announcement => exact (avoids_compiler_numberOf _).bind fun _ => avoids_ok _
      | none => exact avoids_ok _

/-- Reading the output never fails as the compiler does. -/
theorem avoids_compiler_parse (output : String) : Avoids Failure.compiler (parse output) := by
  refine (avoids_mapM _ fun line => ?_).bind fun _ => avoids_ok _
  cases line with
  | nil => exact avoids_ok _
  | cons first rest =>
      rw [readLine]
      split
      · exact avoids_ok _
      · split
        · exact avoids_ok _
        · exact avoids_compiler_readHeader _

end CompilerOutput

theorem avoids_compiler_writtenText (bytes : ByteArray) :
    Avoids Failure.compiler (writtenText bytes) := by
  have decoded : Avoids Failure.compiler (Disk.decode bytes) := by
    intro fault
    unfold Disk.decode
    split <;> exact fun same => nomatch same
  exact decoded.bind fun _ => avoids_ok _

/-- What is written is read as text, its line ends unified. -/
theorem writtenText_toUTF8 (text : String) :
    writtenText text.toUTF8 = .ok (String.ofList (Text.unifyLineEnds text.toList)) := by
  rw [writtenText, Disk.decode_toUTF8]
  rfl

/-! ## Outcomes -/

/-- A result tells that the compiler has failed: it holds a record, or it is a failure of the
compiler. -/
def TellsFailure (result : Except Failure (List RawDiagnostic)) : Prop :=
  (∃ records, result = .ok records ∧ records ≠ []) ∨ ∃ fault, result = .error (.compiler fault)

theorem tellsFailure_ok_iff {records : List RawDiagnostic} :
    TellsFailure (.ok records) ↔ records ≠ [] := by
  constructor
  · rintro (⟨_, same, some⟩ | ⟨_, same⟩)
    · rwa [Except.ok.inj same]
    · cases same
  · exact fun some => .inl ⟨records, rfl, some⟩

/-- A computation that does not fail as the compiler does tells of a failure only if it succeeds
and what follows tells of it. -/
theorem tellsFailure_bind_iff {Result : Type} {first : Except Failure Result}
    {next : Result → Except Failure (List RawDiagnostic)}
    (spares : Avoids Failure.compiler first) :
    TellsFailure (first >>= next) ↔ ∃ value, first = .ok value ∧ TellsFailure (next value) := by
  cases first with
  | ok value => simp [bind, Except.bind]
  | error failure =>
      refine iff_of_false ?_ (by simp)
      rintro (⟨records, same, _⟩ | ⟨fault, same⟩)
      · cases same
      · exact spares fault (congrArg _ (Except.error.inj same))

/-- A run that has failed is told by a record, or else by a complaint. -/
theorem tellsFailure_recordsOfRun_iff {status : Int} (failed : status ≠ 0)
    (output complaint : String) :
    TellsFailure (recordsOfRun status output complaint) ↔
      (∀ line ∈ Text.lines output.toList, CompilerOutput.Legible line) ∧
        ((∃ line ∈ Text.lines output.toList, CompilerOutput.StartsRecord line) ∨
          Text.trim complaint ≠ "") := by
  rw [← CompilerOutput.decided_parse_iff]
  refine (tellsFailure_bind_iff (CompilerOutput.avoids_compiler_parse output)).trans ?_
  rw [Decided, ← exists_and_right]
  refine exists_congr fun records => and_congr_right fun parsed => ?_
  rw [← CompilerOutput.parse_ne_nil_iff parsed]
  simp only
  split
  · next complains => exact iff_of_true (.inr ⟨_, rfl⟩) (.inr complains.2.2)
  · next silent =>
      have told : Text.trim complaint ≠ "" → records ≠ [] := fun complains none =>
        silent ⟨failed, none, complains⟩
      refine tellsFailure_ok_iff.trans ?_
      rw [ne_eq, List.map_eq_nil_iff]
      exact ⟨.inl, fun either => either.elim id told⟩

/-- **When a failed run is told.** Whatever the status of a compiler that has failed, its output
and its complaint, the failure is told by a record or by a failure of the compiler exactly when
both are texts, no numeral in a header of the output is too long, and a line of the output starts a
record or the complaint is not blank. -/
theorem failed_run_is_told_iff (invocation : Invocation) (seconds : Int) (status : Int)
    (output complaint : ByteArray) (failed : status ≠ 0) :
    TellsFailure ((Outcome.finished status output complaint).records invocation seconds) ↔
      ∃ written said, writtenText output = .ok written ∧ writtenText complaint = .ok said ∧
        (∀ line ∈ Text.lines written.toList, CompilerOutput.Legible line) ∧
        ((∃ line ∈ Text.lines written.toList, CompilerOutput.StartsRecord line) ∨
          Text.trim said ≠ "") := by
  refine (tellsFailure_bind_iff (avoids_compiler_writtenText output)).trans ?_
  refine exists_congr fun written => ?_
  rw [tellsFailure_bind_iff (avoids_compiler_writtenText complaint)]
  simp only [tellsFailure_recordsOfRun_iff failed, exists_and_left]

theorem failed_run_is_told_by_its_complaint :
    (1 : Int) ≠ 0 ∧ TellsFailure
      ((Outcome.finished 1 "".toUTF8 "npx: command failed".toUTF8).records ⟨["npx"], ⟨0, []⟩⟩
        120) := by
  refine ⟨by decide, (failed_run_is_told_iff _ 120 1 _ _ (by decide)).2
    ⟨_, _, writtenText_toUTF8 _, writtenText_toUTF8 _, ?_, .inr (by decide +kernel)⟩⟩
  intro line member
  cases member

/-- The run of a compiler comes to the records of its outcome. -/
theorem returns_runCompiler (programs : Programs) {disk : Disk} {root : Place}
    {profile : Profile} {attention : Attention} {invocation : Invocation}
    (invoked : profile.invocation disk (Path.ofPlace root) = .ok invocation)
    (checked : invocation.checkWords = .ok ()) :
    (runCompiler programs disk root profile).Returns attention
      ((programs.run disk root profile.timeoutSeconds invocation.words).1.records invocation
        profile.timeoutSeconds) := by
  have first : (liftM (profile.invocation disk (Path.ofPlace root)) : Run Invocation).Returns
      attention (.ok invocation) := invoked ▸ Run.returns_lift _
  have second : (liftM invocation.checkWords : Run Unit).Returns attention (.ok ()) :=
    checked ▸ Run.returns_lift _
  exact first.bind ((Run.returns_note _ _).bind (second.bind (Run.returns_lift _)))

/-- A project whose compiler ends with status 3 and writes nothing at all. -/
def silentProfile : Profile :=
  { command := [.text "sh", .text "-c", .text "exit 3"] }

/-- The disk of a project with nothing but the settings of the compiler. -/
def silentDisk : Disk := Disk.empty.put ["tsconfig.json"] (.file "{}".toUTF8)

/-- How the compiler of that project is run. -/
def silentInvocation : Invocation := ⟨["sh", "-c", "exit 3"], ⟨1, ["tsconfig.json"]⟩⟩

/-- The status, the output and the complaint of a command that has finished. -/
def Outcome.finished? : Outcome → Option (Int × ByteArray × ByteArray)
  | .finished status output complaint => some (status, output, complaint)
  | _ => none

theorem Outcome.eq_of_finished?_eq_some {outcome : Outcome} {status : Int}
    {output complaint : ByteArray} (ended : outcome.finished? = some (status, output, complaint)) :
    outcome = .finished status output complaint := by
  unfold Outcome.finished? at ended
  split at ended
  · cases ended
    rfl
  · cases ended

/-- A compiler that fails without a word looks as if the project were clean. -/
theorem silent_failure_is_not_told :
    silentProfile.invocation silentDisk (Path.ofPlace []) = .ok silentInvocation ∧
      (Programs.replaying.run silentDisk [] silentProfile.timeoutSeconds silentInvocation.words).1 =
        .finished 3 "".toUTF8 "".toUTF8 ∧
      ((runCompiler .replaying silentDisk [] silentProfile).perform .nothing).1 = .ok [] ∧
      ¬ TellsFailure ((runCompiler .replaying silentDisk [] silentProfile).perform .nothing).1 := by
  have invoked : silentProfile.invocation silentDisk (Path.ofPlace []) = .ok silentInvocation :=
    rfl
  have ended : (Programs.replaying.run silentDisk [] silentProfile.timeoutSeconds
      silentInvocation.words).1 = .finished 3 "".toUTF8 "".toUTF8 :=
    Outcome.eq_of_finished?_eq_some (by decide +kernel)
  have nothing : (Outcome.finished 3 "".toUTF8 "".toUTF8).records silentInvocation
      silentProfile.timeoutSeconds = .ok [] := by
    rw [Outcome.records, writtenText_toUTF8]
    rfl
  have returned :
      ((runCompiler .replaying silentDisk [] silentProfile).perform .nothing).1 = .ok [] := by
    rw [(returns_runCompiler .replaying invoked rfl).perform, ended, nothing]
  refine ⟨invoked, ended, returned, fun told => ?_⟩
  rw [returned] at told
  exact tellsFailure_ok_iff.1 told rfl

end Triage
