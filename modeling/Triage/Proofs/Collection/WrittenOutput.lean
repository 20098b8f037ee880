import Triage.Compiler.Outcome
import Triage.Proofs.Collection.Headers
import Triage.Proofs.Numerals
import Triage.Proofs.Text.Lines
import Triage.Proofs.Text.Trimming
import Triage.Proofs.Verdict

/-!
# Reading what the compiler wrote

The compiler writes a record as a header and further lines of its message, each indented, and
anything else that it writes is noise: blank lines, and lines that are neither indented nor
headers.  Reading the output gives the records back, in their order and as they were, and a run of
the compiler that has written them hands on one raw diagnostic for each, with its fields
(`parse_write`).  Every line is read as what it was written as (`readLine_of_isNoise`,
`readLine_further`, `readLine_header`), and noise leaves the records alone
(`assemble_body`, `assemble_blocks`).
-/

namespace Triage.CompilerOutput

set_option autoImplicit false

open Triage.Text

/-! ## What is written -/

/-- No line ends inside a text. -/
def IsClean (text : String) : Prop := ∀ c ∈ text.toList, isLineBoundary c = false

instance (text : String) : Decidable (IsClean text) :=
  List.decidableBAll (fun c => isLineBoundary c = false) text.toList

/-- A line has one of the two forms of a header. -/
def IsHeader (line : List Char) : Prop :=
  (∃ file mark message, file ≠ [] ∧ IsPositionMark mark ∧ line = file ++ mark ++ message) ∨
    ∃ mark message, IsSeverityMark mark ∧ line = mark ++ message

/-- A line is blank, or it is neither indented nor a header. -/
structure IsNoise (line : String) : Prop where
  clean : IsClean line
  form : (∀ c ∈ line.toList, isBlank c = true) ∨
    (∃ first rest, line.toList = first :: rest ∧ isBlank first = false) ∧ ¬ IsHeader line.toList

/-- A line is noise when it is not indented and no part of a header can be read in it. -/
theorem isNoise_of_unread {line : String} (clean : IsClean line)
    (visible : ∃ first rest, line.toList = first :: rest ∧ isBlank first = false)
    (unread : ∀ rest ∈ line.toList.tails, readPosition? rest = none)
    (unannounced : readAnnouncement? line.toList = none) : IsNoise line := by
  refine ⟨clean, .inr ⟨visible, ?_⟩⟩
  rintro (⟨file, mark, message, _, marked, same⟩ | ⟨mark, message, marked, same⟩)
  · exact not_infix_of_unread unread mark marked ⟨file, message, same.symm⟩
  · obtain ⟨announcement, read⟩ := exists_readAnnouncement?_of_isSeverityMark marked message
    rw [← same, unannounced] at read
    cases read

/-- A line behind a header. -/
inductive BodyLine where
  | noise (line : String)
  /-- A line that carries the message on. -/
  | further (indentation text : String)
deriving Repr, DecidableEq

namespace BodyLine

/-- The line as it is written. -/
def written : BodyLine → String
  | noise line => line
  | further indentation text => indentation ++ text

/-- What the line adds to the message. -/
def added : BodyLine → Option String
  | noise _ => none
  | further _ text => some text

/-- A further line is indented by blanks, and its text is not empty and has no blank at its
ends. -/
def IsProper : BodyLine → Prop
  | noise line => IsNoise line
  | further indentation text =>
      IsClean indentation ∧ indentation ≠ "" ∧ (∀ c ∈ indentation.toList, isBlank c = true) ∧
        IsClean text ∧ text ≠ "" ∧ trim text = text

/-- What the line is read as. -/
def reading : BodyLine → Line
  | noise _ => .ignored
  | further _ text => .continuation text

end BodyLine

/-- A record as it is written: its header, and the lines up to the next header. -/
structure Block where
  location : Option Location
  severity : String
  code : Nat
  /-- The first line of the message. -/
  message : String
  body : List BodyLine
deriving Repr, DecidableEq

/-- A file may not be mistaken for an indentation, and no position mark occurs in it. -/
structure Location.IsProper (location : Location) : Prop where
  clean : IsClean location.file
  visible : ∃ first rest, location.file.toList = first :: rest ∧ isBlank first = false
  unmarked : ∀ mark, IsPositionMark mark → ¬ mark <:+: location.file.toList
  line : location.line < 10 ^ Decimal.maxDigits
  column : location.column < 10 ^ Decimal.maxDigits

namespace Block

variable (block : Block)

/-- The severity, the code and the first line of the message. -/
def announced : String :=
  block.severity ++ " TS" ++ toString block.code ++ ": " ++ block.message

/-- The header of a record. -/
def header : String :=
  match block.location with
  | none => block.announced
  | some location =>
      location.file ++ "(" ++ toString location.line ++ "," ++ toString location.column ++ "): " ++
        block.announced

/-- The lines of a record. -/
def written : List String := block.header :: block.body.map BodyLine.written

/-- The record that was written. -/
def record : Record where
  location := block.location
  severity := block.severity
  code := block.code
  message := "\n".intercalate (block.message :: block.body.filterMap BodyLine.added)

/-- The raw diagnostic that a run hands on for it: texts and whole numbers, and nothing where the
record has no file. -/
def raw : RawDiagnostic where
  message := .text ("\n".intercalate (block.message :: block.body.filterMap BodyLine.added))
  code := .int block.code
  file := block.location.elim .null fun location => .text location.file
  line := block.location.elim .null fun location => .int location.line
  column := block.location.elim .null fun location => .int location.column
  severity := .text block.severity

theorem toRaw_record : block.record.toRaw = block.raw := by
  unfold Record.toRaw raw record
  cases block.location <;> rfl

/-- A record is written with a severity that is known and with numbers that are not too long;
in the message of a record without a file no position mark occurs. -/
structure IsProper : Prop where
  severity : block.severity ∈ severityWords
  code : block.code < 10 ^ Decimal.maxDigits
  clean : IsClean block.message
  located : ∀ location ∈ block.location, location.IsProper
  unlocated : block.location = none →
    ∀ mark, IsPositionMark mark → ¬ mark <:+: block.message.toList
  body : ∀ line ∈ block.body, line.IsProper

/-- The record of the header alone. -/
def opening : Record := ⟨block.location, block.severity, block.code, block.message⟩

/-- What the lines of a record are read as. -/
def readings : List Line := .header block.opening :: block.body.map BodyLine.reading

end Block

/-- The output of the compiler: noise, and the lines of the records. -/
def write (preamble : List String) (blocks : List Block) : String :=
  "\n".intercalate (preamble ++ blocks.flatMap Block.written)

/-! ## Reading lines -/

/-- A line that has neither form of a header is passed over. -/
theorem readHeader_of_not_isHeader {line : List Char} (other : ¬ IsHeader line) :
    readHeader line = .ok .ignored := by
  rw [IsHeader, not_or] at other
  unfold readHeader
  cases located : readLocated? [] line with
  | some found =>
      obtain ⟨file, mark, message, marked, same, named⟩ := positionMark_of_readLocated? located
      exact absurd ⟨file, mark, message, named rfl, marked, same⟩ other.1
  | none =>
      cases announced : readAnnouncement? line with
      | some announcement =>
          obtain ⟨mark, marked, same⟩ := severityMark_of_readAnnouncement? announced
          exact absurd ⟨mark, _, marked, same⟩ other.2
      | none => rfl

/-- A line that starts with a character that is not blank is read as a header. -/
theorem readLine_of_visible {first : Char} (visible : isBlank first = false) (rest : List Char) :
    readLine (first :: rest) = readHeader (first :: rest) := by
  rw [readLine, if_neg (by simp [visible]), if_neg (by simp [visible])]

/-- **Noise is passed over.** -/
theorem readLine_of_isNoise {line : String} (noise : IsNoise line) :
    readLine line.toList = .ok .ignored := by
  rcases noise.form with blank | ⟨⟨first, rest, starts, visible⟩, other⟩
  · cases written : line.toList with
    | nil => rfl
    | cons first rest =>
        rw [written] at blank
        rw [readLine, if_pos (List.all_eq_true.2 blank)]
  · rw [starts] at other ⊢
    rw [readLine_of_visible visible, readHeader_of_not_isHeader other]

/-- A text that is not empty and has no blank at its ends is not blank. -/
theorem not_all_isBlank {text : String} (nonempty : text ≠ "") (trimmed : trim text = text) :
    ¬ text.toList.all isBlank = true := by
  intro blank
  have nothing : trimChars text.toList = [] := by
    rw [← List.append_nil text.toList, trimChars_append (List.all_eq_true.1 blank)]
    rfl
  rw [trim, nothing] at trimmed
  exact nonempty trimmed.symm

/-- **An indented line carries the message on.** -/
theorem readLine_further {indentation text : String}
    (proper : (BodyLine.further indentation text).IsProper) :
    readLine (indentation ++ text).toList = .ok (.continuation text) := by
  obtain ⟨_, indented, blank, _, nonempty, trimmed⟩ := proper
  rw [String.toList_append]
  obtain ⟨first, rest, starts⟩ : ∃ first rest, indentation.toList = first :: rest :=
    List.exists_cons_of_ne_nil fun none => indented (String.toList_eq_nil_iff.1 none)
  have opens : isBlank first = true := blank first (by simp [starts])
  have visible : ¬ (indentation.toList ++ text.toList).all isBlank = true := by
    rw [List.all_append, Bool.and_eq_true, not_and]
    exact fun _ => not_all_isBlank nonempty trimmed
  have cut : trimChars (indentation.toList ++ text.toList) = text.toList := by
    have stripped := congrArg String.toList trimmed
    rwa [trim, String.toList_ofList, ← trimChars_append blank] at stripped
  rw [starts, List.cons_append] at visible cut ⊢
  rw [readLine, if_neg visible, if_pos opens, cut, String.ofList_toList]

/-- The digits of a number are a numeral. -/
theorem isNumeral_toDigits (number : Nat) : IsNumeral (Nat.toDigits 10 number) :=
  ⟨Nat.toDigits_ne_nil, fun _ member =>
    isDigit_of_isAsciiDigit (isAsciiDigit_of_mem_toDigits member)⟩

/-- A number that is not too long is read back from its digits. -/
theorem numberOf_toDigits {number : Nat} (short : number < 10 ^ Decimal.maxDigits) :
    numberOf (Nat.toDigits 10 number) = .ok number := by
  have ascii : ∀ c ∈ Nat.toDigits 10 number, isAsciiDigit c = true :=
    fun c member => isAsciiDigit_of_mem_toDigits member
  have fits := length_toDigits_le short
  rw [numberOf, if_neg (by omega), filterMap_digitValue? ascii, ofDigitValues_toDigits]

theorem toList_toString_nat (number : Nat) :
    (toString number).toList = Nat.toDigits 10 number := by
  rw [Nat.toString_eq_repr, Nat.toList_repr]

/-- The announcement of a record is read back. -/
theorem readAnnouncement?_announced {block : Block} (known : block.severity ∈ severityWords) :
    readAnnouncement? block.announced.toList =
      some ⟨block.severity, Nat.toDigits 10 block.code, block.message.toList⟩ := by
  refine readAnnouncement?_eq_some_iff.2 ⟨known, isNumeral_toDigits _, ?_⟩
  simp only [Block.announced, String.toList_append, toList_toString_nat, List.append_assoc]

/-- A record without a file is not read as one with a file. -/
theorem readLocated?_announced {block : Block} (known : block.severity ∈ severityWords)
    (unmarked : ∀ mark, IsPositionMark mark → ¬ mark <:+: block.message.toList) :
    readLocated? [] block.announced.toList = none := by
  cases found : readLocated? [] block.announced.toList with
  | none => rfl
  | some position =>
      -- A position mark in the line would be one in the message.
      obtain ⟨file, mark, message, marked, same, _⟩ := positionMark_of_readLocated? found
      obtain ⟨severity, opens, split⟩ :=
        severityMark_of_readAnnouncement? (readAnnouncement?_announced known)
      have inside : mark <:+: severity ++ block.message.toList := by
        rw [← split, same]
        exact ⟨file, message, rfl⟩
      exact absurd (infix_of_isPositionMark marked (not_mem_severityMark opens) inside)
        (unmarked mark marked)

/-- The header of a record without a file is read back. -/
theorem readHeader_announced {block : Block} (proper : block.IsProper)
    (unlocated : block.location = none) :
    readHeader block.announced.toList = .ok (.header block.opening) := by
  rw [readHeader, readLocated?_announced proper.severity (proper.unlocated unlocated),
    readAnnouncement?_announced proper.severity]
  simp only [numberOf_toDigits proper.code, String.ofList_toList, Block.opening, unlocated]
  rfl

/-- The position behind a file is read back. -/
theorem readPosition?_written {block : Block} (known : block.severity ∈ severityWords)
    (line column : Nat) :
    readPosition? ("(".toList ++ (Nat.toDigits 10 line ++ (",".toList ++
        (Nat.toDigits 10 column ++ ("): ".toList ++ block.announced.toList))))) =
      some (Nat.toDigits 10 line, Nat.toDigits 10 column,
        ⟨block.severity, Nat.toDigits 10 block.code, block.message.toList⟩) :=
  readPosition?_eq_some_iff.2 ⟨isNumeral_toDigits line, isNumeral_toDigits column, _,
    readAnnouncement?_announced known, rfl⟩

/-- The header of a record with a file is read back. -/
theorem readHeader_located {block : Block} (proper : block.IsProper) {location : Location}
    (located : block.location = some location) :
    readHeader block.header.toList = .ok (.header block.opening) := by
  have place := proper.located location located
  obtain ⟨first, rest, starts, _⟩ := place.visible
  have named : location.file.toList ≠ [] := by simp [starts]
  have written : block.header.toList = location.file.toList ++ ("(".toList ++
      (Nat.toDigits 10 location.line ++ (",".toList ++ (Nat.toDigits 10 location.column ++
        ("): ".toList ++ block.announced.toList))))) := by
    simp only [Block.header, located, String.toList_append, toList_toString_nat,
      List.append_assoc]
  rw [written, readHeader, readLocated?_of_not_infix named place.unmarked
    (readPosition?_written proper.severity location.line location.column)]
  simp only [locatedRecord, numberOf_toDigits place.line, numberOf_toDigits place.column,
    numberOf_toDigits proper.code, String.ofList_toList, Block.opening, located]
  rfl

/-- A header starts with a character that is not blank. -/
theorem visible_header {block : Block} (proper : block.IsProper) :
    ∃ first rest, block.header.toList = first :: rest ∧ isBlank first = false := by
  have announced : ∃ first rest,
      block.announced.toList = first :: rest ∧ isBlank first = false := by
    have known := proper.severity
    simp only [severityWords, List.mem_cons, List.not_mem_nil, or_false] at known
    simp only [Block.announced, String.toList_append]
    rcases known with same | same | same | same <;> rw [same] <;> exact ⟨_, _, rfl, by decide⟩
  cases located : block.location with
  | none => simpa only [Block.header, located] using announced
  | some location =>
      obtain ⟨first, rest, starts, visible⟩ := (proper.located location located).visible
      simp only [Block.header, located, String.toList_append, starts, List.cons_append]
      exact ⟨first, _, rfl, visible⟩

/-- **A header is read back as the record that it opens.** -/
theorem readLine_header {block : Block} (proper : block.IsProper) :
    readLine block.header.toList = .ok (.header block.opening) := by
  have read : readHeader block.header.toList = .ok (.header block.opening) := by
    cases located : block.location with
    | none =>
        simpa only [Block.header, located] using readHeader_announced proper located
    | some location => exact readHeader_located proper located
  obtain ⟨first, rest, starts, visible⟩ := visible_header proper
  rw [starts] at read ⊢
  rw [readLine_of_visible visible, read]

/-- A line behind a header is read as what it was written as. -/
theorem readLine_body {line : BodyLine} (proper : line.IsProper) :
    readLine line.written.toList = .ok line.reading := by
  cases line with
  | noise line => exact readLine_of_isNoise proper
  | further indentation text => exact readLine_further proper

/-! ## Assembling records -/

/-- The lines behind a header add their texts to the message, and noise adds nothing. -/
theorem assemble_body (body : List BodyLine) (rest : List Line) :
    assemble (body.map BodyLine.reading ++ rest) =
      (body.filterMap BodyLine.added ++ (assemble rest).1, (assemble rest).2) := by
  induction body with
  | nil => rfl
  | cons line body ih =>
      cases line with
      | noise line =>
          rw [List.map_cons, List.cons_append, List.filterMap_cons_none rfl]
          exact ih
      | further indentation text =>
          have adds : (BodyLine.further indentation text).added = some text := rfl
          rw [List.map_cons, List.cons_append, List.filterMap_cons_some adds]
          simp only [BodyLine.reading, assemble, ih, List.cons_append]

/-- The lines of records make the records, and no message is carried on before the first. -/
theorem assemble_blocks (blocks : List Block) :
    assemble (blocks.flatMap Block.readings) = ([], blocks.map Block.record) := by
  induction blocks with
  | nil => rfl
  | cons block rest ih =>
      rw [List.flatMap_cons, Block.readings, List.cons_append, assemble, assemble_body, ih,
        List.append_nil, List.map_cons]
      rfl

/-- Lines that are passed over at the start or at the end make no difference. -/
theorem assemble_ignored (before : List String) (lines : List Line) :
    assemble (before.map (fun _ => .ignored) ++ lines) = assemble lines := by
  induction before with
  | nil => rfl
  | cons line before ih => exact ih

theorem assemble_append_ignored (lines : List Line) :
    assemble (lines ++ [.ignored]) = assemble lines := by
  induction lines with
  | nil => rfl
  | cons line lines ih =>
      cases line <;> simp only [List.cons_append, assemble, ih]

/-! ## Reading the output -/

theorem isClean_append {first second : String} (left : IsClean first) (right : IsClean second) :
    IsClean (first ++ second) := by
  intro c member
  rw [String.toList_append, List.mem_append] at member
  exact member.elim (left c) (right c)

theorem isClean_toString_nat (number : Nat) : IsClean (toString number) := by
  intro c member
  rw [toList_toString_nat] at member
  have digit := isAsciiDigit_of_mem_toDigits member
  simp only [isAsciiDigit, Bool.and_eq_true, decide_eq_true_eq] at digit
  simp only [isLineBoundary, Bool.or_eq_false_iff, Bool.and_eq_false_iff,
    decide_eq_false_iff_not, beq_eq_false_iff_ne]
  omega

theorem isClean_severity {severity : String} (known : severity ∈ severityWords) :
    IsClean severity := by
  simp only [severityWords, List.mem_cons, List.not_mem_nil, or_false] at known
  rcases known with rfl | rfl | rfl | rfl <;> exact (by decide)

/-- No line ends inside a header. -/
theorem isClean_header {block : Block} (proper : block.IsProper) : IsClean block.header := by
  have announced : IsClean block.announced :=
    isClean_append (isClean_append (isClean_append (isClean_append
      (isClean_severity proper.severity) (by decide)) (isClean_toString_nat _)) (by decide))
      proper.clean
  cases located : block.location with
  | none => simpa only [Block.header, located] using announced
  | some location =>
      simp only [Block.header, located]
      exact isClean_append (isClean_append (isClean_append (isClean_append (isClean_append
        (isClean_append (proper.located location located).clean (by decide))
        (isClean_toString_nat _)) (by decide)) (isClean_toString_nat _)) (by decide)) announced

/-- No line ends inside a line. -/
theorem isClean_body {line : BodyLine} (proper : line.IsProper) : IsClean line.written := by
  cases line with
  | noise line => exact IsNoise.clean proper
  | further indentation text => exact isClean_append proper.1 proper.2.2.2.1

/-- The lines of a record are clean, and they are read as what they were written as. -/
theorem mapM_readLine_block {block : Block} (proper : block.IsProper) :
    (∀ line ∈ block.written, IsClean line) ∧
      (block.written.map String.toList).mapM readLine = .ok block.readings := by
  constructor
  · intro line member
    rcases List.mem_cons.1 member with rfl | further
    · exact isClean_header proper
    · obtain ⟨body, among, rfl⟩ := List.mem_map.1 further
      exact isClean_body (proper.body body among)
  · rw [mapM_eq_ok_iff, Block.written, Block.readings, List.map_cons, List.forall₂_cons,
      List.map_map, List.forall₂_map_left_iff, List.forall₂_map_right_iff, List.forall₂_same]
    exact ⟨readLine_header proper, fun line member => readLine_body (proper.body line member)⟩

/-- The lines of many records are read as what they were written as. -/
theorem mapM_readLine_blocks {blocks : List Block} (proper : ∀ block ∈ blocks, block.IsProper) :
    ((blocks.flatMap Block.written).map String.toList).mapM readLine =
      .ok (blocks.flatMap Block.readings) := by
  induction blocks with
  | nil => rfl
  | cons block rest ih =>
      have here := (mapM_readLine_block (proper block (by simp))).2
      have below := ih fun other member => proper other (by simp [member])
      rw [List.flatMap_cons, List.map_append, List.mapM_append, here, below]
      rfl

/-- Noise is read as nothing. -/
theorem mapM_readLine_noise {preamble : List String} (noise : ∀ line ∈ preamble, IsNoise line) :
    (preamble.map String.toList).mapM readLine = .ok (preamble.map fun _ => .ignored) := by
  rw [mapM_eq_ok_iff, List.forall₂_map_left_iff, List.forall₂_map_right_iff, List.forall₂_same]
  exact fun line member => readLine_of_isNoise (noise line member)

/-- The output is read through the lines that were written, whether or not the last of them is
empty. -/
theorem parse_intercalate {pieces : List String} {readings : List Line}
    (clean : ∀ line ∈ pieces, IsClean line)
    (read : (pieces.map String.toList).mapM readLine = .ok readings) :
    parse ("\n".intercalate pieces) = .ok (assemble readings).2 := by
  have apart : ∀ piece ∈ pieces.map String.toList, ∀ c ∈ piece, isLineBoundary c = false := by
    intro piece member
    obtain ⟨line, among, rfl⟩ := List.mem_map.1 member
    exact clean line among
  obtain ⟨ending, short, split⟩ := lines_intercalate apart
  have text : ("\n".intercalate pieces).toList =
      ['\n'].intercalate (pieces.map String.toList) := String.toList_intercalate
  rw [split, List.mapM_append, bind_eq_ok] at read
  obtain ⟨front, found, read⟩ := read
  obtain ⟨back, last, made⟩ := bind_eq_ok.1 read
  rw [← Except.ok.inj made, parse, text, found]
  rcases short with rfl | rfl
  · obtain rfl : [] = back := Except.ok.inj last
    rw [List.append_nil]
    rfl
  · obtain rfl : [.ignored] = back := Except.ok.inj last
    rw [assemble_append_ignored]
    rfl

/-- What a run hands on when its output is read as records: it has not failed, or there are some. -/
theorem recordsOfRun_of_parse {output : String} {blocks : List Block}
    (parsed : parse output = .ok (blocks.map Block.record)) {status : Int}
    (told : status = 0 ∨ blocks ≠ []) (complaint : String) :
    recordsOfRun status output complaint = .ok (blocks.map Block.raw) := by
  have quiet : ¬ (status ≠ 0 ∧ blocks.map Block.record = [] ∧ trim complaint ≠ "") := by
    rintro ⟨failed, none, _⟩
    exact told.elim failed fun some => some (List.map_eq_nil_iff.1 none)
  have handed : (blocks.map Block.record).map Record.toRaw = blocks.map Block.raw := by
    rw [List.map_map]
    exact List.map_congr_left fun block _ => block.toRaw_record
  rw [recordsOfRun, parsed, ← handed]
  exact (if_neg quiet).trans rfl

/-- **Reading the output of the compiler gives the records back.** Records are written one
after the other with noise before and between their lines, and they are read in their order
and as they were: the place, the severity, the code and the lines of the message.  A run that has
ended well or has written a record hands them on, each field of each of them. -/
theorem parse_write (preamble : List String) (blocks : List Block)
    (noise : ∀ line ∈ preamble, IsNoise line) (proper : ∀ block ∈ blocks, block.IsProper) :
    parse (write preamble blocks) = .ok (blocks.map Block.record) ∧
      ∀ status complaint, status = 0 ∨ blocks ≠ [] →
        recordsOfRun status (write preamble blocks) complaint = .ok (blocks.map Block.raw) := by
  have clean : ∀ line ∈ preamble ++ blocks.flatMap Block.written, IsClean line := by
    intro line member
    rcases List.mem_append.1 member with before | behind
    · exact (noise line before).clean
    · obtain ⟨block, among, inside⟩ := List.mem_flatMap.1 behind
      exact (mapM_readLine_block (proper block among)).1 line inside
  have read : ((preamble ++ blocks.flatMap Block.written).map String.toList).mapM readLine =
      .ok (preamble.map (fun _ => .ignored) ++ blocks.flatMap Block.readings) := by
    rw [List.map_append, List.mapM_append, mapM_readLine_noise noise,
      mapM_readLine_blocks proper]
    rfl
  have parsed : parse (write preamble blocks) = .ok (blocks.map Block.record) := by
    rw [write, parse_intercalate clean read, assemble_ignored, assemble_blocks]
  exact ⟨parsed, fun _ complaint told => recordsOfRun_of_parse parsed told complaint⟩

/-- A record whose file has parentheses in its name and whose message goes on behind an
unknown line, and a record without a file, whose message looks like that of a header. -/
def sampleBlocks : List Block :=
  [⟨some ⟨"src/a(1).ts", 12, 5⟩, "error", 2304, "Cannot find",
      [.further "  " "name", .noise "", .noise "Watching", .further "\t" "b"]⟩,
    ⟨none, "error", 5083, "error TS1: c", []⟩]

theorem parse_write_sampleBlocks :
    parse (write ["Starting", " "] sampleBlocks) = .ok
        [⟨some ⟨"src/a(1).ts", 12, 5⟩, "error", 2304, "Cannot find\nname\nb"⟩,
          ⟨none, "error", 5083, "error TS1: c"⟩] ∧
      recordsOfRun 2 (write ["Starting", " "] sampleBlocks) "" = .ok
        [{ message := .text "Cannot find\nname\nb", code := .int 2304
           file := .text "src/a(1).ts", line := .int 12, column := .int 5
           severity := .text "error" },
          { message := .text "error TS1: c", code := .int 5083, severity := .text "error" }] := by
  have short : ∀ number ∈ [12, 5, 2304, 5083], number < 10 ^ Decimal.maxDigits := by
    have small : ∀ number ∈ [12, 5, 2304, 5083], number < 10 ^ 4 := by decide
    have enough : 10 ^ 4 ≤ 10 ^ Decimal.maxDigits :=
      Nat.pow_le_pow_right (by decide) (by decide : 4 ≤ Decimal.maxDigits)
    exact fun number member => Nat.lt_of_lt_of_le (small number member) enough
  have blank : ∀ line ∈ ["", " "], IsNoise line := by
    have blanks : ∀ line ∈ ["", " "], line.toList.all isBlank = true := by decide
    exact fun line member =>
      ⟨by revert line; decide, .inl (List.all_eq_true.1 (blanks line member))⟩
  have starting : IsNoise "Starting" :=
    isNoise_of_unread (by decide) ⟨_, _, rfl, by decide⟩ (by decide) (by decide)
  have watching : IsNoise "Watching" :=
    isNoise_of_unread (by decide) ⟨_, _, rfl, by decide⟩ (by decide) (by decide)
  have noise : ∀ line ∈ ["Starting", " "], IsNoise line := by
    simp only [List.forall_mem_cons, List.not_mem_nil, false_implies, implies_true, and_true]
    exact ⟨starting, blank " " (by simp)⟩
  have proper : ∀ block ∈ sampleBlocks, block.IsProper := by
    simp only [sampleBlocks, List.forall_mem_cons, List.not_mem_nil, false_implies, implies_true,
      and_true]
    constructor
    · refine ⟨by decide, short _ (by simp), by decide, ?_, nofun, ?_⟩
      · rintro location ⟨⟩
        exact ⟨by decide, ⟨_, _, rfl, by decide⟩, not_infix_of_unread (by decide),
          short _ (by simp), short _ (by simp)⟩
      · simp only [List.forall_mem_cons, List.not_mem_nil, false_implies, implies_true,
          and_true, BodyLine.IsProper]
        exact ⟨⟨by decide, by decide, List.all_eq_true.1 (by decide), by decide, by decide,
          by decide⟩, blank "" (by simp), watching, by decide, by decide,
          List.all_eq_true.1 (by decide), by decide, by decide, by decide⟩
    · exact ⟨by decide, short _ (by simp), by decide, nofun,
        fun _ => not_infix_of_unread (by decide), nofun⟩
  obtain ⟨parsed, handed⟩ := parse_write ["Starting", " "] sampleBlocks noise proper
  exact ⟨parsed, handed 2 "" (.inr (List.cons_ne_nil _ _))⟩

end Triage.CompilerOutput
