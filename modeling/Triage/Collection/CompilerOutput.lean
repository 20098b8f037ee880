import Triage.Collection.RawDiagnostic
import Triage.Text.Blank
import Triage.Text.Lines

/-!
# The output of the compiler

The compiler writes one diagnostic after the other as text.  A diagnostic starts with
a header: a file with a line and a column in parentheses, or nothing at all, then a
severity, a code and a message.  Indented lines after a header carry the message on;
blank lines and lines of any other form are passed over.

The file of a header ends at the first place where the rest of the line has the form
of a position, a severity, a code and a message, so a file name may hold parentheses
and commas.
-/

namespace Triage.CompilerOutput

set_option autoImplicit false

open Triage.Text

/-- Where a diagnostic was reported. -/
structure Location where
  file : String
  line : Nat
  column : Nat
deriving Repr, DecidableEq

/-- A diagnostic in the output of the compiler. -/
structure Record where
  location : Option Location
  severity : String
  code : Nat
  message : String
deriving Repr, DecidableEq

/-- The severities that a header may name. -/
def severityWords : List String := ["error", "warning", "message", "suggestion"]

/-- The text behind a given beginning. -/
def behind? (beginning text : List Char) : Option (List Char) :=
  if beginning.isPrefixOf text then some (text.drop beginning.length) else none

/-- One or more digits and the text behind them. -/
def takeDigits? (text : List Char) : Option (List Char × List Char) :=
  let digits := text.takeWhile isDigit
  if digits.isEmpty then none else some (digits, text.dropWhile isDigit)

/-- The part of a header from the severity on. -/
structure Announcement where
  severity : String
  code : List Char
  message : List Char
deriving Repr, DecidableEq

/-- Read an announcement that takes up the rest of a line. -/
def readAnnouncement? (text : List Char) : Option Announcement := do
  let severity ← severityWords.find? fun word => (word ++ " TS").toList.isPrefixOf text
  let rest ← behind? (severity ++ " TS").toList text
  let (code, rest) ← takeDigits? rest
  let message ← behind? ": ".toList rest
  return ⟨severity, code, message⟩

/-- Read a position in parentheses and an announcement. -/
def readPosition? (text : List Char) : Option (List Char × List Char × Announcement) := do
  let (line, rest) ← takeDigits? (← behind? "(".toList text)
  let (column, rest) ← takeDigits? (← behind? ",".toList rest)
  let announcement ← readAnnouncement? (← behind? "): ".toList rest)
  return (line, column, announcement)

/-- Read a header with a location; `file` holds the file read so far, last character
first. -/
def readLocated? (file : List Char) :
    List Char → Option (List Char × List Char × List Char × Announcement)
  | [] => none
  | c :: rest =>
      let here := if file.isEmpty then none else readPosition? (c :: rest)
      match here with
      | some (line, column, announcement) => some (file.reverse, line, column, announcement)
      | none => readLocated? (c :: file) rest

/-- The number that digits stand for, unless they are too many. -/
def numberOf (digits : List Char) : Except Failure Nat :=
  if Decimal.maxDigits < digits.length then .error .invalidValue
  else .ok (Decimal.ofDigitValues (digits.filterMap digitValue?))

/-- What a line of the output is. -/
inductive Line where
  /-- A blank line, or one of no known form. -/
  | ignored
  /-- A line that carries a message on. -/
  | continuation (text : String)
  | header (record : Record)
deriving Repr, DecidableEq

/-- The record of a header with a location. -/
def locatedRecord (file line column : List Char) (announcement : Announcement) :
    Except Failure Record := do
  let line ← numberOf line
  let column ← numberOf column
  let code ← numberOf announcement.code
  return ⟨some ⟨String.ofList file, line, column⟩, announcement.severity, code,
    String.ofList announcement.message⟩

/-- Read a line that is neither blank nor indented. -/
def readHeader (line : List Char) : Except Failure Line :=
  match readLocated? [] line with
  | some (file, row, column, announcement) =>
      return .header (← locatedRecord file row column announcement)
  | none =>
      match readAnnouncement? line with
      | some announcement => do
          let code ← numberOf announcement.code
          return .header ⟨none, announcement.severity, code, String.ofList announcement.message⟩
      | none => .ok .ignored

/-- Read a line. -/
def readLine (line : List Char) : Except Failure Line :=
  match line with
  | [] => .ok .ignored
  | first :: _ =>
      if line.all isBlank then .ok .ignored
      else if isBlank first then .ok (.continuation (String.ofList (trimChars line)))
      else readHeader line

/-- A record with further lines of its message. -/
def Record.extend (record : Record) (further : List String) : Record :=
  { record with message := "\n".intercalate (record.message :: further) }

/-- The continuations before the first header, and the records of all headers, each
with the continuations up to the next header. -/
def assemble : List Line → List String × List Record
  | [] => ([], [])
  | .ignored :: rest => assemble rest
  | .continuation text :: rest =>
      let (further, records) := assemble rest
      (text :: further, records)
  | .header record :: rest =>
      let (further, records) := assemble rest
      ([], record.extend further :: records)

/-- The diagnostics in the output of the compiler; continuations before the first
header belong to none. -/
def parse (output : String) : Except Failure (List Record) := do
  let read ← (lines output.toList).mapM readLine
  return (assemble read).2

/-- A record as it is before it is checked. -/
def Record.toRaw (record : Record) : RawDiagnostic :=
  let announced : RawDiagnostic :=
    { message := .text record.message, code := .int record.code, severity := .text record.severity }
  match record.location with
  | none => announced
  | some location =>
      { announced with
        file := .text location.file, line := .int location.line, column := .int location.column }

end Triage.CompilerOutput
