import Triage.Disk
import Triage.Journal
import Triage.Report.Rendering
import Triage.Value.Showing

/-!
# Exporting reports

An export writes the text of a report to a file and notes it.  Directories above the
file are made when they are missing.  Exports are the only way in which an analysis
changes the disk.

A report files some of its entries under the names of subsystems, and not every value that
can be a name can be written as one.  Whether a report can be written is asked when its
directory stands and nothing has been written to the file.
-/

namespace Triage

set_option autoImplicit false

/-- A report that is to be written. -/
structure Export where
  path : Path
  engine : Engine
  body : Value
  observedAt : String
  /-- The names that entries of the report are filed under. -/
  names : List Value := []
  /-- What else is noted once the report is written. -/
  remark : Option String := none

/-- The text of the report. -/
def Export.text (report : Export) : String :=
  renderBody report.body report.engine report.observedAt

/-- Fail unless the names and everything else in the report can be written. -/
def Export.check (report : Export) : Except Failure Unit := do
  report.names.forM Value.checkEntryName
  report.body.checkShown

/-- Write a report to its file, which is seen from a working directory. -/
def Export.write (report : Export) (disk : Disk) (directory : Place) : Run Disk := do
  let path := (Path.ofPlace directory).join report.path
  let prepared ← disk.makeDirectories [] path.parent.names
  report.check
  let written ← prepared.writeText path report.text
  Run.info (report.engine.word ++ " report exported to " ++ report.path.text)
  if let some remark := report.remark then Run.info remark
  return written

/-- Write reports one after the other. -/
def writeExports (directory : Place) : List Export → Disk → Run Disk
  | [], disk => pure disk
  | report :: rest, disk => do writeExports directory rest (← report.write disk directory)

end Triage
