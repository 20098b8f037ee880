import Triage.Diagnostic

/-!
# Diagnostics from their records

The record of a diagnostic in a report can be read back.  All fields but the severity
and the category have to be there; numbers are read leniently, the two words have to
be words of their scales, and the message and the file may be any value.
-/

namespace Triage

set_option autoImplicit false

/-- A field that has to be there. -/
def requiredField (fields : List (String × Value)) (key : String) : Except Failure Value :=
  match OrderedMap.findIn key fields with
  | some value => .ok value
  | none => .error .fieldMissing

/-- A word of a scale, or a default when the field is missing. -/
def scaleField {Scale : Type} (fields : List (String × Value)) (key : String) (default : Scale)
    (ofWord? : String → Option Scale) : Except Failure Scale :=
  match OrderedMap.findIn key fields with
  | none => .ok default
  | some (.text word) =>
      match ofWord? word with
      | some found => .ok found
      | none => .error .invalidValue
  | some _ => .error .invalidValue

/-- Read a diagnostic from the fields of its record. -/
def Diagnostic.ofFields (fields : List (String × Value)) : Except Failure Diagnostic := do
  let code ← (← requiredField fields "code").toInt
  let message ← requiredField fields "message"
  let file ← requiredField fields "file"
  let line ← (← requiredField fields "line").toInt
  let column ← (← requiredField fields "column").toInt
  let severity ← scaleField fields "severity" Severity.error Severity.ofWord?
  let category ← scaleField fields "category" Category.other Category.ofWord?
  return { code := .int code, message, file, line := .int line, column := .int column, severity,
           category }

end Triage
