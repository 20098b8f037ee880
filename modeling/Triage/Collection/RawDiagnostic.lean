import Triage.Diagnostic

/-!
# Records of the compiler

A raw diagnostic is a record as it came from the compiler or from a file, before
anything has been checked: every field may be any value, and a field that is missing is
null.  Reading a record from a table never fails for a field that is no number; such a
field counts as missing.
-/

namespace Triage

set_option autoImplicit false

/-- A record of the compiler before it is checked. -/
structure RawDiagnostic where
  message : Value
  code : Value := .null
  file : Value := .null
  line : Value := .null
  column : Value := .null
  severity : Value := .text Severity.error.word
deriving Inhabited

namespace RawDiagnostic

/-- The fields of a record. -/
def fieldNames : List String := ["message", "code", "file", "line", "column", "severity"]

/-- A record that holds a message and nothing else. -/
def ofMessage (message : String) : RawDiagnostic := { message := .text message }

/-- The record whose fields are given as they are.  It has to have a message, and no
field that a record does not have. -/
def ofGiven : Value → Except Failure RawDiagnostic
  | .table fields => do
      let given (name : String) (default : Value) : Value :=
        (OrderedMap.findIn name fields).getD default
      let some message := OrderedMap.findIn "message" fields | throw .wrongKind
      if fields.any fun field => !fieldNames.contains field.1 then throw .wrongKind
      return { message
               code := given "code" .null
               file := given "file" .null
               line := given "line" .null
               column := given "column" .null
               severity := given "severity" (.text Severity.error.word) }
  | _ => .error .wrongKind

/-- A field as a whole number; missing if it is missing or stands for no number.  An
infinite number is no missing one. -/
def numberField (fields : List (String × Value)) (key : String) : Except Failure Value :=
  match OrderedMap.findIn key fields with
  | none => .ok .null
  | some value =>
      match value.toInt with
      | .ok number => .ok (.int number)
      | .error .infiniteNumber => .error .infiniteNumber
      | .error _ => .ok .null

/-- A field as a text, a missing one being a default. -/
def textField (fields : List (String × Value)) (key default : String) : Value :=
  .text ((OrderedMap.findIn key fields).getD (.text default)).display

/-- The record that the fields of a table make. -/
def ofFields (fields : List (String × Value)) : Except Failure RawDiagnostic := do
  return { message := textField fields "message" ""
           code := ← numberField fields "code"
           file := (OrderedMap.findIn "file" fields).getD .null
           line := ← numberField fields "line"
           column := ← numberField fields "column"
           severity := textField fields "severity" Severity.error.word }

/-- The record that a value makes; a value that is no table is a mere message. -/
def ofValue : Value → Except Failure RawDiagnostic
  | .table fields => ofFields fields
  | other => .ok (ofMessage other.display)

end RawDiagnostic

end Triage
