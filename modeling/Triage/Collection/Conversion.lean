import Triage.Collection.Classification
import Triage.Collection.RawDiagnostic

/-!
# From a record to a diagnostic

A record becomes a diagnostic when it has a file, a line, a column and a code.  Its
file is written relative to the project when it lies inside, whatever way the record
spells it; an absolute path that leads elsewhere is kept.  The file and the severity
have to be texts; of the code and the message only that is asked which the rules of
classification come to.
-/

namespace Triage

set_option autoImplicit false

variable {Number : Type}

/-- The name of the directory that dependencies live in. -/
def dependencyDirectory : String := "node_modules"

/-- Whether a file lies inside a dependency. -/
def isDependency (file : String) : Bool := (Text.cut '/' file).contains dependencyDirectory

/-- A file as reports show it: an absolute path that leads into the project is made
relative, any other absolute path is kept, a relative path is written with slashes. -/
def projectFile (root : Place) (file : String) : String :=
  let path := Path.parse file
  if path.isAbsolute then
    if path.hasNul then path.text
    else
      match (Path.ofPlace (path.resolve [])).namesBelow? (Path.ofPlace root) with
      | some names => Path.text ⟨0, names⟩
      | none => path.text
  else Text.slashed file

/-- Check and classify a record. -/
def RawDiagnostic.convert (raw : RawDiagnostic) (root : Place) (profile : Profile)
    (subsystems : List (Subsystem Number)) : Except Failure Diagnostic := do
  if !raw.file.isTruthy then throw (.conversion (.noFile raw.message))
  if raw.line.isNull || raw.column.isNull then throw (.conversion (.noPosition raw.file))
  if raw.code.isNull then throw (.conversion (.noCode raw.file raw.line))
  let file := Value.text (projectFile root (← raw.file.toText))
  let severity := severityOf (← raw.severity.textOr .notATable)
  let category ← classify ⟨raw.code, raw.message, file, profile, subsystems⟩
  return { code := raw.code, message := raw.message, file, line := raw.line
           column := raw.column, severity, category }

end Triage
